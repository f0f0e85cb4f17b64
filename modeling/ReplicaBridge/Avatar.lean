/-
Module: ReplicaBridge.Avatar
Purpose: The replicated state of one participant's avatar, and when it is fit to store.
  Single-precision numbers are kept as their bit patterns, so that signed zeros and NaN
  payloads travel unchanged; arithmetic is done only to judge validity.
Main exports: EntityId, Single, AvatarState, AvatarState.isValid
-/

namespace ReplicaBridge

/-- The identity of a participant, as the server assigns it. -/
abbrev EntityId := UInt64

/-- An IEEE 754 single-precision number by its bit pattern. -/
abbrev Single := UInt32

namespace Single

/-- Neither infinite nor NaN: the exponent field is not all ones. -/
def isFinite (bits : Single) : Bool :=
  (bits.toNat >>> 23) % 256 != 255

/-- The bit pattern of one. -/
def one : Single := 0x3F800000

/-- The bit pattern of nine tenths, rounded to single precision. -/
def nineTenths : Single := 0x3F666666

/-- The bit pattern of eleven tenths, rounded to single precision. -/
def elevenTenths : Single := 0x3F8CCCCD

end Single

/-- A point or a direction in space. -/
structure Vec3 where
  x : Single
  y : Single
  z : Single
deriving Repr, Inhabited, DecidableEq

namespace Vec3

/-- The origin. -/
def zero : Vec3 := { x := 0, y := 0, z := 0 }

def isFinite (vector : Vec3) : Bool :=
  Single.isFinite vector.x && Single.isFinite vector.y && Single.isFinite vector.z

end Vec3

/-- An orientation. -/
structure Quat where
  x : Single
  y : Single
  z : Single
  w : Single
deriving Repr, Inhabited, DecidableEq

namespace Quat

/-- No rotation. -/
def identity : Quat := { x := 0, y := 0, z := 0, w := Single.one }

def isFinite (rotation : Quat) : Bool :=
  Single.isFinite rotation.x && Single.isFinite rotation.y && Single.isFinite rotation.z
    && Single.isFinite rotation.w

/-- The length of a quaternion; every step is rounded to single precision, from left to
right. -/
def magnitude (rotation : Quat) : Float32 :=
  let x := Float32.ofBits rotation.x
  let y := Float32.ofBits rotation.y
  let z := Float32.ofBits rotation.z
  let w := Float32.ofBits rotation.w
  Float32.sqrt (((x * x + y * y) + z * z) + w * w)

/-- The length is within a tenth of one, both ends included. -/
def isNearUnit (rotation : Quat) : Bool :=
  let length := rotation.magnitude
  decide (Float32.ofBits Single.nineTenths ≤ length)
    && decide (length ≤ Float32.ofBits Single.elevenTenths)

end Quat

/-- One avatar: where it is, how it moves and what its player presses.  Input bits that
mean nothing here are carried through untouched. -/
structure AvatarState where
  id : EntityId
  position : Vec3
  orientation : Quat
  velocity : Vec3
  input : UInt32
deriving Repr, Inhabited, DecidableEq

namespace AvatarState

/-- A resting avatar at the origin. -/
def resting (id : EntityId) : AvatarState :=
  { id, position := .zero, orientation := .identity, velocity := .zero, input := 0 }

/-- The same state under another identity. -/
def withId (state : AvatarState) (id : EntityId) : AvatarState :=
  { state with id }

/-- Every number is finite and the orientation is close to unit length.  The identity
plays no part. -/
def isValid (state : AvatarState) : Bool :=
  state.position.isFinite && state.orientation.isFinite && state.velocity.isFinite
    && state.orientation.isNearUnit

theorem isValid_withId (state : AvatarState) (id : EntityId) :
    (state.withId id).isValid = state.isValid := rfl

end AvatarState

end ReplicaBridge
