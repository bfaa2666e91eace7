import Gamebook.Template.Basic

/-!
The templates that are used where none are given: the title page, the page of a scene and the style
sheet of both.
-/

namespace Gamebook.Template.Packaged

open Gamebook.Text

def block (lines : List Text) : Node := .text (lines.flatMap fun line => line ++ ['\n'])

def shown (name : Text) : Node := .output (.name name)

def opening : List Node := [
  .text "<!DOCTYPE html>\n<html xmlns=\"http://www.w3.org/1999/xhtml\" lang=\"",
  shown "language",
  .text "\" xml:lang=\"",
  shown "language",
  .text "\">\n",
  block [
    "<head>",
    "  <meta charset=\"utf-8\" />",
    "  <meta name=\"viewport\" content=\"width=device-width, initial-scale=1\" />"],
  .text "  <title>"]

def middle : List Node := [
  .text "</title>\n  <link rel=\"stylesheet\" type=\"text/css\" href=\"",
  shown "stylesheet",
  .text "\" />\n",
  block [
    "</head>",
    "<body>",
    "  <main class=\"shell\">"],
  .text "    <div class=\"titlebar\">",
  shown "title",
  .text "</div>\n    <article class=\"content\">\n"]

def closing : Node := block ["  </main>", "</body>", "</html>"]

/-- The title page, with the description and the way to the first page. -/
def index : List Node :=
  opening ++ [shown "title"] ++ middle ++ [
    .text "      <h1>",
    shown "title",
    .text "</h1>\n",
    shown "description",
    .text "\n      <p class=\"begin\"><a href=\"",
    shown "first_page",
    .text "\">Begin</a></p>\n    </article>\n",
    closing]

/-- The toggles that are set, where they are to be shown. -/
def toggles : Node :=
  .branch (.isGiven (.name "debug_toggles")) [
    .text "\n    <footer class=\"debug\">Toggles: ",
    .output (.choice (.name "debug_toggles") (.joined (.name "debug_toggles") ", ")
      (.constant (.text "none"))),
    .text "</footer>"] []

def scene : List Node :=
  opening ++ [shown "title", .text " | ", shown "scene_name"] ++ middle ++ [
    .text "      <h2>",
    shown "scene_name",
    .text "</h2>\n",
    shown "content",
    .text "\n    </article>",
    toggles,
    .text "\n",
    closing]

def styleLines : List String := [
  ":root \x7b",
  "  color-scheme: light;",
  "  --paper: #f8f5ef;",
  "  --ink: #1c1a17;",
  "  --accent: #9d4f2c;",
  "  --frame: #d9ccb8;",
  "\x7d",
  "* \x7b box-sizing: border-box; \x7d",
  "body \x7b",
  "  margin: 0;",
  "  font-family: Georgia, \"Times New Roman\", serif;",
  "  background: linear-gradient(180deg, #f2e8d8 0%, #ede1cd 100%);",
  "  color: var(--ink);",
  "\x7d",
  ".shell \x7b",
  "  max-width: 840px;",
  "  margin: 2.5rem auto;",
  "  background: var(--paper);",
  "  border: 1px solid var(--frame);",
  "  border-radius: 10px;",
  "  overflow: hidden;",
  "\x7d",
  ".titlebar \x7b",
  "  padding: 1rem 1.4rem;",
  "  background: linear-gradient(90deg, #2f251f, #59453b);",
  "  color: #f8efe2;",
  "  letter-spacing: 0.03em;",
  "  font-size: 0.95rem;",
  "  text-transform: uppercase;",
  "\x7d",
  ".content \x7b",
  "  padding: 2rem 1.6rem 2.2rem;",
  "  line-height: 1.7;",
  "  font-size: 1.1rem;",
  "\x7d",
  "h1, h2 \x7b",
  "  font-family: \"Palatino Linotype\", Palatino, serif;",
  "  color: #2b211c;",
  "\x7d",
  "h1 \x7b",
  "  margin-top: 0;",
  "  font-size: 2rem;",
  "  border-bottom: 2px solid var(--frame);",
  "  padding-bottom: 0.3rem;",
  "\x7d",
  "a \x7b color: var(--accent); \x7d",
  "img \x7b max-width: 100%; \x7d",
  ".debug \x7b",
  "  border-top: 1px solid var(--frame);",
  "  font-family: monospace;",
  "  font-size: 0.85rem;",
  "  color: #5f5146;",
  "  padding: 0.9rem 1.4rem;",
  "  background: #f4ecde;",
  "\x7d"]

def styles : Text := styleLines.flatMap fun line => line.toList ++ ['\n']

end Gamebook.Template.Packaged
