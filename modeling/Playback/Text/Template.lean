import Playback.Text.Replace

/-!
This module contains texts with named places that are filled in later.
-/

namespace Playback.Text

/--
Fill the places of a template one after the other. A text that has been filled in is searched for the
places that follow.
-/
def fill (template : String) (values : List (String × String)) : String :=
  values.foldl (fun text (place, value) => replaced place value text) template

end Playback.Text
