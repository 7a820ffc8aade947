import LiveShader.Text.Blank
import LiveShader.Text.Decimal
import LiveShader.Text.Lines
import LiveShader.Text.Search

/-! The dialects of GLSL a stage can be written in, judged by the stage's
`#version` directive alone. -/

namespace LiveShader.Glsl

open Text

inductive Dialect where
  /-- GLSL ES 1.00: no directive, or a version below 300. -/
  | legacy
  /-- GLSL ES 3.00 and later ES versions. -/
  | es3
  /-- Every other version, which the compiler takes as it is. -/
  | desktop
  deriving DecidableEq, Repr

namespace Dialect

def name : Dialect → String
  | .legacy => "legacy GLSL ES 1.00"
  | .es3 => "GLSL ES 3.00"
  | .desktop => "desktop GLSL"

/-- Whether a stage in this dialect has to be lowered for the compiler. -/
def needsLowering : Dialect → Bool
  | .desktop => false
  | _ => true

/-- The first version number of the ES 3.00 family. -/
def firstModernVersion : Nat := 300

def versionWord : List Char := "#version".toList

/-- Drops `pattern` from the front as often as it stands there, at most `bound`
times. -/
def dropRepeated (pattern : List Char) : (bound : Nat) → List Char → List Char
  | 0, text => text
  | bound + 1, text =>
      match dropLeading? pattern text with
      | some rest => dropRepeated pattern bound rest
      | none => text

/-- The dialect a version directive names. -/
def ofDirective (directive : List Char) : Dialect :=
  match words (dropRepeated versionWord directive.length directive) with
  | [] => .legacy
  | number :: rest =>
      match read32? number with
      | none => .legacy
      | some version =>
          if version < firstModernVersion then
            .legacy
          else if rest.head? = some "es".toList then
            .es3
          else
            .desktop

/-- The dialect of a stage: that of its first version directive. -/
def detect (source : List Char) : Dialect :=
  match ((lines source).map trimLeft).find? versionWord.isPrefixOf with
  | none => .legacy
  | some directive => ofDirective directive

end Dialect

end LiveShader.Glsl
