import Playback.Text.Blank

/-!
This module contains the logic to reduce program text to its code: comments are dropped, and literals
keep their quotes only. A block comment may reach over several lines.
-/

namespace Playback.Source

inductive Mode where
  | code
  | blockComment
  | literal (quote : Char)
deriving DecidableEq

/--
The code of a line, and whether a block comment is still open at its end.
-/
def codeOf : Mode → List Char → List Char × Bool
  | .blockComment, [] => ([], true)
  -- A literal ends with its line at the latest.
  | _, [] => ([], false)
  | .blockComment, '*' :: '/' :: cs => codeOf .code cs
  | .blockComment, _ :: cs => codeOf .blockComment cs
  -- A backslash in a literal hides the character that follows.
  | .literal _, '\\' :: [] => ([], false)
  | .literal quote, '\\' :: _ :: cs => codeOf (.literal quote) cs
  | .literal quote, c :: cs => codeOf (if c == quote then .code else .literal quote) cs
  | .code, '/' :: '/' :: _ => ([], false)
  | .code, '/' :: '*' :: cs => codeOf .blockComment cs
  | .code, c :: cs =>
    if c == '"' || c == '\'' then
      -- Of a literal, only its quotes are code.
      let (rest, open_) := codeOf (.literal c) cs
      (c :: c :: rest, open_)
    else
      let (rest, open_) := codeOf .code cs
      (c :: rest, open_)

def codeLines (inComment : Bool) : List (List Char) → List (List Char)
  | [] => []
  | line :: rest =>
    let (code, inComment) := codeOf (if inComment then .blockComment else .code) line
    Text.trim code :: codeLines inComment rest

end Playback.Source
