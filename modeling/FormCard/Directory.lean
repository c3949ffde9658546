/-!
# A directory held in memory

The program reads two files, the card and the settings, and asks nothing of a file but its text.  So
a run can be carried out on files that are at hand as texts, and its result depends on nothing else.

Paths are relative to the directory.  What does not name one of its files cannot be read, and
neither can a file that holds no text.  Steps upwards and links are not followed: they lead out of
what a list of files can say.
-/

namespace FormCard

/-- Files by the parts of their paths; a file without a text is not readable as one. -/
structure Directory where
  files : List (List String × Option String)

namespace Directory

/-- The parts of a path, between its slashes. -/
def parts (path : String) : List String :=
  (path.toList.splitOn '/').map String.ofList

/-- Whether a part of a path stays where it is. -/
def isIdle (part : String) : Bool := part = "" || part = "."

/-- The parts of a path that name a file.  A path that starts or ends with a slash names none, and
steps upwards lead out of what is known. -/
def filePath? (path : String) : Option (List String) :=
  let all := parts path
  if all.head?.any (· = "") || all.getLast?.any (fun part => isIdle part || part = "..")
      || all.contains ".." then none
  else some (all.filter fun part => !isIdle part)

def ofFiles (files : List (String × Option String)) : Directory :=
  ⟨files.map fun file => ((parts file.1).filter fun part => !isIdle part, file.2)⟩

def readText (directory : Directory) (path : String) : Option String := do
  let wanted ← filePath? path
  let file ← directory.files.find? fun file => file.1 == wanted
  file.2

end Directory

end FormCard
