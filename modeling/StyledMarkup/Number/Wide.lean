namespace StyledMarkup.Wide

/-!
# Functions in double width

A function of 32-bit numbers is calculated with 64-bit numbers, and its result
is rounded back.  So it is the nearest 32-bit number to the exact result but
for rare cases in which that lies almost in the middle of two of them.
-/

/-- A function of one number. -/
def apply (function : Float → Float) (value : Float32) : Float32 :=
  (function value.toFloat).toFloat32

/-- A function of two numbers. -/
def apply₂ (function : Float → Float → Float) (first second : Float32) : Float32 :=
  (function first.toFloat second.toFloat).toFloat32

/-- The cube root. -/
def cubeRoot : Float32 → Float32 := apply Float.cbrt

/-- A power. -/
def power (base exponent : Float32) : Float32 := apply₂ Float.pow base exponent

/-- The sine of an angle in radians. -/
def sine : Float32 → Float32 := apply Float.sin

/-- The cosine of an angle in radians. -/
def cosine : Float32 → Float32 := apply Float.cos

/-- The angle of a point in radians, from its second and its first coordinate. -/
def angle (second first : Float32) : Float32 := apply₂ Float.atan2 second first

/-- The root of the sum of two squares. -/
def hypotenuse (first second : Float32) : Float32 :=
  if first.isInf || second.isInf then 1.0 / 0.0
  else apply₂ (fun a b => (a * a + b * b).sqrt) first second

end StyledMarkup.Wide
