import LiveShader.Render.Size
import LiveShader.Text.Blank
import LiveShader.Text.Decimal
import LiveShader.Text.Search

/-! Sizes as users write them, such as `1280x720`. -/

namespace LiveShader

inductive SizeError where
  | noSeparator
  | invalidWidth
  | invalidHeight
  | empty
  deriving DecidableEq, Repr

def SizeError.message : SizeError → String
  | noSeparator => "expected WxH format, e.g. 1280x720"
  | invalidWidth => "invalid width in size specification"
  | invalidHeight => "invalid height in size specification"
  | empty => "window dimensions must be greater than zero"

/-- Reads a width and a height, separated by the first `x` or `X`. -/
def Size.ofText (text : String) : Except SizeError Size := do
  match Text.splitAtFirst? (fun character => character == 'x' || character == 'X')
      (Text.trim text.toList) with
  | none => .error .noSeparator
  | some (width, height) =>
      match Text.read32? (Text.trim width), Text.read32? (Text.trim height) with
      | none, _ => .error .invalidWidth
      | some _, none => .error .invalidHeight
      | some width, some height =>
          let size := { width, height : Size }
          if size.isEmpty then .error .empty else .ok size

end LiveShader
