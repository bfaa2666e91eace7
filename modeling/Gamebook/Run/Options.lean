import Gamebook.Text.Basic

/-!
Options of the command line.

Every option but one is followed by its value, whatever that is; `--debug` stands alone. An option
that is given again replaces its earlier value.
-/

namespace Gamebook.Run

inductive ValueOption where
  | format
  | input
  | output
  | template
  | author
  | bookId
  | language
  | images
deriving DecidableEq, Repr

namespace ValueOption

def all : List ValueOption :=
  [.format, .input, .output, .template, .author, .bookId, .language, .images]

def key : ValueOption → String
  | .format => "--format"
  | .input => "--in"
  | .output => "--out"
  | .template => "--template"
  | .author => "--author"
  | .bookId => "--bookid"
  | .language => "--language"
  | .images => "--images"

def name : ValueOption → String
  | .format => "format"
  | .input => "input"
  | .output => "output"
  | .template => "template"
  | .author => "author"
  | .bookId => "bookid"
  | .language => "language"
  | .images => "images"

def ofKey? (key : Text) : Option ValueOption := all.find? fun option => option.key.toList = key

end ValueOption

inductive UsageFault where
  | unknownOption (key : Text)
  | missingValue (key : Text)
  | missingAuthor
  /-- Nothing that could be done is asked for. -/
  | unclear
deriving DecidableEq

namespace UsageFault

def message : UsageFault → String
  | .unknownOption key => "Unknown option: " ++ key.str
  | .missingValue key => "Missing value for option " ++ key.str
  | .missingAuthor => "Epub format requires the --author argument."
  | .unclear => ""

/-- Only a command line that asks for nothing is answered with the list of options. -/
def showsHelp : UsageFault → Bool
  | .unclear => true
  | _ => false

end UsageFault

/-- The options given, values in the order of the command line. -/
structure Options where
  values : List (ValueOption × Text) := []
  debug : Bool := false
deriving DecidableEq

namespace Options

def debugKey : Text := "--debug"

def value? (options : Options) (option : ValueOption) : Option Text :=
  (options.values.reverse.find? fun given => given.1 = option).map Prod.snd

def scan : List Text → Except UsageFault Options
  | [] => .ok {}
  | key :: words =>
    if key = debugKey then do
      let options ← scan words
      return { options with debug := true }
    else
      match ValueOption.ofKey? key, words with
      | none, _ => .error (.unknownOption key)
      | some _, [] => .error (.missingValue key)
      | some option, value :: words => do
        let options ← scan words
        return { options with values := (option, value) :: options.values }

end Options

end Gamebook.Run
