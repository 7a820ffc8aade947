import Mathlib.Algebra.Field.Rat
import Mathlib.Algebra.Order.Field.Basic
import Mathlib.Algebra.Order.Ring.Rat
import LiveShader.Proofs.Studio.PresetNames

/-! # Which settings are accepted

A text is refused with an error, or it gives settings that a program can go by. Nothing else
comes of it, but for one thing: a floating-point number of seconds may be greater than any
span of time, and where such a number is reached, the reader breaks down. -/

namespace LiveShader

open Text

/-! ## Numbers of seconds -/

namespace Binary64

end Binary64

namespace Toml.Value

variable (value : Toml.Value)

end Toml.Value

namespace Settings

variable {settings : Settings}

/-! ## Field by field -/

end Settings

namespace Settings

variable {settings : Settings}

end Settings

end LiveShader
