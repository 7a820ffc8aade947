import LiveShader.Data.Table

/-! Named example prompts, kept in ascending order of their names. -/

namespace LiveShader

/-- Prompts by name, in ascending order of the names by their code points. -/
abbrev Presets := List (String × String)

namespace Presets

/-- The preset with a name. -/
def find? (presets : Presets) (name : String) : Option String :=
  Table.find? presets name

/-- Sets the prompt of a name. -/
def insert (presets : Presets) (name prompt : String) : Presets :=
  match presets with
  | [] => [(name, prompt)]
  | (present, other) :: rest =>
      if name = present then (name, prompt) :: rest
      else if name < present then (name, prompt) :: (present, other) :: rest
      else (present, other) :: insert rest name prompt

/-- Adds presets, which win over those of the same names. -/
def extend (presets more : Presets) : Presets :=
  more.foldl (fun presets entry => presets.insert entry.1 entry.2) presets

/-- The presets every user has. -/
def builtin : Presets :=
  extend [] [
    ("plasma", "Smoothly shifting plasma of magenta, cyan and gold that swirls over time"),
    ("ocean", "Rolling ocean waves seen from above with foam highlights and a deep blue palette"),
    ("tunnel", "Endless neon tunnel rushing toward the viewer with pulsing rings"),
    ("aurora", "Northern lights rippling across a dark starry sky")]

/-- Fills a text up with blanks to a number of characters. -/
def padRight (width : Nat) (text : String) : String :=
  text ++ .ofList (.replicate (width - text.length) ' ')

/-- The presets as a list for the user. Names are filled up to as many characters
as the longest of them has bytes. -/
def listing (presets : Presets) : List String :=
  if presets.isEmpty then
    ["No presets configured."]
  else
    let width := (presets.map fun entry => entry.1.utf8ByteSize).foldl max 0
    presets.map fun (name, prompt) => "  " ++ padRight width name ++ "  " ++ prompt

end Presets

end LiveShader
