import Playback.Text.Blank
import Playback.Text.Word

/-!
This module contains the languages whose programs can be traced, and the names and file endings that
stand for them.
-/

namespace Playback

inductive Language where
  | python
  | javascript
  | cpp
  | c
  | java
deriving DecidableEq, Inhabited

namespace Language

def name : Language → String
  | .python => "python"
  | .javascript => "javascript"
  | .cpp => "cpp"
  | .c => "c"
  | .java => "java"

/--
Every language, in the order in which messages list them.
-/
def all : List Language := [.python, .javascript, .cpp, .c, .java]

def ofName? (s : String) : Option Language :=
  all.find? (·.name == s)

def aliases : List (String × Language) :=
  [("python", .python), ("python3", .python), ("py", .python), ("javascript", .javascript),
   ("js", .javascript), ("node", .javascript), ("cpp", .cpp), ("c++", .cpp), ("c", .c),
   ("java", .java)]

/--
The language that a request names. White space around the name and the case of its letters do not
matter.
-/
def ofAlias? (s : String) : Option Language :=
  aliases.lookup (Text.trimmed s).toLower

def endings : List (String × Language) :=
  [(".py", .python), (".js", .javascript), (".mjs", .javascript), (".cpp", .cpp), (".cc", .cpp),
   (".cxx", .cpp), (".c", .c), (".java", .java)]

/--
The last component of a path. Empty components and single points are passed over.
-/
def fileName (path : String) : List Char :=
  let parts := (Text.splitOn '/' path.toList).filter fun part => part != [] && part != ['.']
  parts.getLastD []

/--
The ending of a file name with its point. A point at either end of the name starts no ending.
-/
def fileEnding (name : List Char) : List Char :=
  let tail := (name.reverse.takeWhile (· != '.')).reverse
  let stem := name.length - tail.length
  if tail.isEmpty || stem ≤ 1 then [] else '.' :: tail

def ofPath? (path : String) : Option Language :=
  endings.lookup (String.ofList (fileEnding (fileName path))).toLower

end Language

end Playback
