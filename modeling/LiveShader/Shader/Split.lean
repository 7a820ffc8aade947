import LiveShader.Shader.BuildError
import LiveShader.Text.Blank
import LiveShader.Text.Search

/-! Cutting a generated text into its two stages.

A marker is a `//` comment whose first words are the stage's name and `shader`,
in any ASCII case, with spaces or tabs between them. The vertex stage is what
stands between the first vertex marker and the first fragment marker after it;
the fragment stage is the rest. -/

namespace LiveShader

open Text

namespace Marker

/-- Spaces and tabs separate the words of a marker. -/
def isGap (character : Char) : Bool :=
  character == ' ' || character == '\t'

/-- The characters that continue a word of a marker. -/
def isWordCharacter (character : Char) : Bool :=
  character.isAlphanum || character == '_'

/-- What follows `word`, in any ASCII case, at the front of a text. -/
def dropLetters? : (word text : List Char) → Option (List Char)
  | [], text => some text
  | _ :: _, [] => none
  | letter :: word, character :: rest =>
      if character.toLower = letter then dropLetters? word rest else none

/-- What follows `word` at the front of a text, where the word ends. -/
def dropWord? (word text : List Char) : Option (List Char) :=
  match dropLetters? word text with
  | some (next :: rest) => if isWordCharacter next then none else some (next :: rest)
  | some [] => some []
  | none => none

/-- What follows the words of a stage's marker, given the text after its two
slashes. -/
def dropWords? (stage : Stage) (text : List Char) : Option (List Char) :=
  match dropWord? stage.name.toList (text.dropWhile isGap) with
  | some (gap :: rest) =>
      if isGap gap then dropWord? "shader".toList (rest.dropWhile isGap) else none
  | _ => none

/-- What stands before and after the first marker of a stage. Two slashes that
open no marker are passed over together. -/
def split? (stage : Stage) : List Char → Option (List Char × List Char)
  | [] => none
  | '/' :: '/' :: rest =>
      match dropWords? stage rest with
      | some after => some ([], after)
      | none => (split? stage rest).map fun (before, after) => ('/' :: '/' :: before, after)
  | character :: rest =>
      (split? stage rest).map fun (before, after) => (character :: before, after)

end Marker

/-- The stage sources of a generated text, trimmed. -/
def splitStages (text : String) : Except SplitError StagePair :=
  match Marker.split? .vertex text.toList with
  | none => .error (.missingMarker .vertex)
  | some (_, afterVertex) =>
      match Marker.split? .fragment afterVertex with
      | none =>
          if (Marker.split? .fragment text.toList).isSome then
            .error .markersOutOfOrder
          else
            .error (.missingMarker .fragment)
      | some (vertex, fragment) =>
          let vertex := trim vertex
          let fragment := trim fragment
          if vertex.isEmpty then
            .error (.emptyStage .vertex)
          else if fragment.isEmpty then
            .error (.emptyStage .fragment)
          else
            .ok { vertex := .ofList vertex, fragment := .ofList fragment }

end LiveShader
