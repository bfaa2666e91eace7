import Gamebook.Publish.Job
import Gamebook.Publish.MediaType

/-!
Books: one archive with the title page, one page for each state of the story, the style sheet, the
images and what a reader has to know of them.

The package document lists everything that belongs to the book under an id of its own, and then the
pages in reading order. The archive starts with the unpacked name of its type.
-/

namespace Gamebook.Publish

open Gamebook.Text Gamebook.Files Gamebook.Run

structure Edition where
  author : Text
  identifier : Text
  /-- When the book was made. -/
  modified : Text
deriving DecidableEq

namespace Book

def escaped (text : Text) : Text := escape .inAttribute text

structure Item where
  id : Text
  href : Text
  mediaType : Text
  isNavigation : Bool := false
deriving DecidableEq

def Item.print (item : Item) : Text :=
  "    <item id=\"" ++ item.id ++ "\" href=\"" ++ escaped item.href ++ "\" media-type=\""
    ++ item.mediaType ++ (if item.isNavigation then "\" properties=\"nav" else "") ++ "\"/>"

def spinePrint (id : Text) : Text := "    <itemref idref=\"" ++ id ++ "\"/>"

structure Package where
  edition : Edition
  title : Text
  language : Text
  manifest : List Item
  /-- The ids of the pages in reading order. -/
  spine : List Text
deriving DecidableEq

def Package.lines (package : Package) : List Text := [
  "<?xml version=\"1.0\" encoding=\"UTF-8\"?>",
  "<package xmlns=\"http://www.idpf.org/2007/opf\" version=\"3.0\" unique-identifier=\"bookid\">",
  "  <metadata xmlns:dc=\"http://purl.org/dc/elements/1.1/\">",
  "    <dc:identifier id=\"bookid\">" ++ escaped package.edition.identifier
    ++ "</dc:identifier>",
  "    <dc:title>" ++ escaped package.title ++ "</dc:title>",
  "    <dc:creator>" ++ escaped package.edition.author ++ "</dc:creator>",
  "    <dc:language>" ++ escaped package.language ++ "</dc:language>",
  "    <meta property=\"dcterms:modified\">" ++ package.edition.modified ++ "</meta>",
  "  </metadata>",
  "  <manifest>",
  join ['\n'] (package.manifest.map Item.print),
  "  </manifest>",
  "  <spine>",
  join ['\n'] (package.spine.map spinePrint),
  "  </spine>",
  "</package>"]

def ofLines (lines : List Text) : Text := lines.flatMap fun line => line ++ ['\n']

def Package.print (package : Package) : Text := ofLines package.lines

def pageEnding : Text := ".xhtml"

def titleName : Text := "index.xhtml"

def navigationName : Text := "nav.xhtml"

def packageName : Text := "content.opf"

def containerName : Text := "META-INF/container.xml"

def mimetypeName : Text := "mimetype"

def mimetype : Text := "application/epub+zip"

def inContent (name : Text) : Text := "OEBPS/".toList ++ name

def pageType : Text := "application/xhtml+xml"

def container : Text := ofLines [
  "<?xml version=\"1.0\" encoding=\"UTF-8\"?>",
  "<container version=\"1.0\" xmlns=\"urn:oasis:names:tc:opendocument:xmlns:container\">",
  "  <rootfiles>",
  "    <rootfile full-path=\"OEBPS/content.opf\" media-type=\"application/oebps-package+xml\"/>",
  "  </rootfiles>",
  "</container>"]

def navigation (title language : Text) : Text := ofLines [
  "<?xml version=\"1.0\" encoding=\"UTF-8\"?>",
  "<!DOCTYPE html>",
  "<html xmlns=\"http://www.w3.org/1999/xhtml\" xmlns:epub=\"http://www.idpf.org/2007/ops\"",
  "      lang=\"" ++ escaped language ++ "\" xml:lang=\"" ++ escaped language ++ "\">",
  "<head>",
  "  <title>" ++ escaped title ++ "</title>",
  "</head>",
  "<body>",
  "  <nav epub:type=\"toc\" id=\"toc\">",
  "    <ol>",
  "      <li><a href=\"" ++ titleName ++ "\">" ++ escaped title ++ "</a></li>",
  "    </ol>",
  "  </nav>",
  "</body>",
  "</html>"]

structure Image where
  name : Text
  source : Path
deriving DecidableEq

def images (tree : FileTree) (directory : Path) : Except Files.Fault (List Image) := do
  let found ← tree.listBelow directory
  let files ← found.filterM fun (names, _) => tree.testFile (directory.below names)
  return files.map fun (names, _) =>
    ⟨"images/".toList ++ join ['/'] names, directory.below names⟩

def imagesOf (tree : FileTree) : Option Path → Except Files.Fault (List Image)
  | none => .ok []
  | some directory => images tree directory

def navigationItem : Item := ⟨"nav", navigationName, pageType, true⟩

def stylesheetItem : Item := ⟨"css", stylesheet, "text/css", false⟩

def documentId (index : Nat) : Text := "doc".toList ++ ofNat index

def documentItem (index : Nat) (document : Document) : Item :=
  ⟨documentId index, document.name, pageType, false⟩

def imageItem (index : Nat) (image : Image) : Item :=
  ⟨"img".toList ++ ofNat index, image.name, MediaType.ofName image.source.name, false⟩

def package (job : Job) (edition : Edition) (documents : List Document) (images : List Image) :
    Package where
  edition := edition
  title := job.story.name
  language := job.language
  manifest := navigationItem :: stylesheetItem
    :: documents.mapIdx documentItem ++ images.mapIdx imageItem
  spine := documents.mapIdx fun index _ => documentId index

def textMember (name content : Text) : Member := ⟨name, .deflated, Utf8.encode content⟩

def members (job : Job) (edition : Edition) (styles : Text) (documents : List Document)
    (images : List Image) : List Member :=
  ⟨mimetypeName, .stored, Utf8.encode mimetype⟩
    :: textMember containerName container
    :: textMember (inContent packageName) (package job edition documents images).print
    :: textMember (inContent navigationName) (navigation job.story.name job.language)
    :: textMember (inContent stylesheet) styles
    :: documents.map fun document => textMember (inContent document.name) document.content

def imageMember (tree : FileTree) (image : Image) : Except Files.Fault Member := do
  let content ← tree.read image.source
  return ⟨inContent image.name, .deflated, content.toBytes⟩

def logger : String := "ficdown.adapters.epub_renderer"

def publish (job : Job) (edition : Edition) : Action Failure Unit := do
  let templates ← ofExcept job.pageTemplates
  let pages ← ofExcept (job.pages pageEnding)
  emit (job.expansionRecord logger "Packaging" pages)
  let title ← ofExcept (job.titlePage templates pageEnding)
  let documents ← ofExcept (pages.mapM (job.document templates pageEnding))
  let documents := ⟨titleName, title⟩ :: documents
  let images ← onFiles .files (inspect fun tree => imagesOf tree job.imageDirectory)
  onFiles .files (makeAllDirectories true job.output.parent)
  onFiles .files (writeFile job.output (.archive ⟨[]⟩))
  let imageMembers ← onFiles .files (inspect fun tree => images.mapM (imageMember tree))
  let all := members job edition templates.styles documents images ++ imageMembers
  onFiles .files (writeFile job.output (.archive ⟨all⟩))

end Book

end Gamebook.Publish
