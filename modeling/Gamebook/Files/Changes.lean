import Gamebook.Files.Tree

/-!
What has been added or changed between two trees of files.
-/

namespace Gamebook.Files.FileTree

open Gamebook.Text

/-- The entry is not in the tree, or another one is in its place. -/
def lacks (tree : FileTree) (location : Location) (entry : Entry) : Bool :=
  tree.entry? location ≠ some entry

/-- The entries that are new or changed since `before`, those of a directory behind it. -/
def allChangesSince (before after : FileTree) : List (Location × Entry) :=
  after.entries.toList.filter fun (location, entry) => before.lacks location entry

/-- The changes below the working directory, each with its path from there, in the order of the
paths' written forms. -/
def changesSince (before after : FileTree) : List (Text × Entry) :=
  let base := after.workingDirectory
  let below := (before.allChangesSince after).filterMap fun (location, entry) =>
    if base.isPrefixOf location && location.length > base.length then
      some (join ['/'] (location.drop base.length), entry)
    else none
  below.mergeSort fun left right => (compare left.1 right.1).isLE

end Gamebook.Files.FileTree
