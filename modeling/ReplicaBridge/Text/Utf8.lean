/-
Module: ReplicaBridge.Text.Utf8
Purpose: Text as UTF-8 bytes: strict decoding, and the lossy decoding that puts one
  replacement character in the place of each maximal ill-formed part.
Main exports: utf8, ofUtf8?, ofUtf8?_eq_some_iff, ofUtf8Lossy
-/
import ReplicaBridge.Bytes

namespace ReplicaBridge.Text

/-- The UTF-8 bytes of a text. -/
def utf8 (text : String) : Bytes :=
  text.toUTF8.data.toList

/-- The text whose UTF-8 bytes are given, if they are well formed. -/
def ofUtf8? (bytes : Bytes) : Option String :=
  String.fromUTF8? bytes.toByteArray

@[simp] theorem length_utf8 (text : String) : (utf8 text).length = text.utf8ByteSize := by
  rw [utf8, Array.length_toList]
  rfl

/-- Decoding accepts exactly the bytes of texts. -/
theorem ofUtf8?_eq_some_iff {bytes : Bytes} {text : String} :
    ofUtf8? bytes = some text ↔ utf8 text = bytes := by
  unfold ofUtf8? String.fromUTF8?
  constructor
  · intro decoded
    split at decoded
    · rename_i valid
      cases decoded
      simp [utf8, String.fromUTF8]
    · cases decoded
  · intro encoded
    subst encoded
    have same : (utf8 text).toByteArray = text.toByteArray := by
      apply ByteArray.ext
      simp [utf8]
    rw [dif_pos (same ▸ text.isValidUTF8)]
    congr 1
    apply String.toByteArray_inj.mp
    simpa [String.fromUTF8] using same

/-- What stands at the front of a byte string: a well-formed character, or the
longest ill-formed part that could still have begun one. -/
inductive Lead where
  | char (value : Char) (rest : Bytes)
  | illFormed (rest : Bytes)

/-- A continuation byte carries six bits. -/
def isContinuation (byte : UInt8) : Bool :=
  0x80 ≤ byte && byte ≤ 0xBF

/-- The six bits of a continuation byte. -/
def continuationBits (byte : UInt8) : Nat :=
  byte.toNat % 64

/-- The least and greatest second byte after a three-byte lead: overlong forms and
surrogates are cut off here. -/
def secondOfThree (lead : UInt8) : UInt8 × UInt8 :=
  if lead = 0xE0 then (0xA0, 0xBF) else if lead = 0xED then (0x80, 0x9F) else (0x80, 0xBF)

/-- The least and greatest second byte after a four-byte lead: overlong forms and
values past U+10FFFF are cut off here. -/
def secondOfFour (lead : UInt8) : UInt8 × UInt8 :=
  if lead = 0xF0 then (0x90, 0xBF) else if lead = 0xF4 then (0x80, 0x8F) else (0x80, 0xBF)

/-- Split off the character or the ill-formed part that follows a lead byte. -/
def splitLead (lead : UInt8) (rest : Bytes) : Lead :=
  if lead < 0x80 then .char (Char.ofNat lead.toNat) rest
  else if 0xC2 ≤ lead && lead ≤ 0xDF then
    match rest with
    | second :: rest' =>
      if isContinuation second then
        .char (Char.ofNat (lead.toNat % 32 * 64 + continuationBits second)) rest'
      else .illFormed rest
    | [] => .illFormed []
  else if 0xE0 ≤ lead && lead ≤ 0xEF then
    let (least, greatest) := secondOfThree lead
    match rest with
    | second :: rest' =>
      if least ≤ second && second ≤ greatest then
        match rest' with
        | third :: rest'' =>
          if isContinuation third then
            .char (Char.ofNat (lead.toNat % 16 * 4096 + continuationBits second * 64
              + continuationBits third)) rest''
          else .illFormed rest'
        | [] => .illFormed []
      else .illFormed rest
    | [] => .illFormed []
  else if 0xF0 ≤ lead && lead ≤ 0xF4 then
    let (least, greatest) := secondOfFour lead
    match rest with
    | second :: rest' =>
      if least ≤ second && second ≤ greatest then
        match rest' with
        | third :: rest'' =>
          if isContinuation third then
            match rest'' with
            | fourth :: rest''' =>
              if isContinuation fourth then
                .char (Char.ofNat (lead.toNat % 8 * 262144 + continuationBits second * 4096
                  + continuationBits third * 64 + continuationBits fourth)) rest'''
              else .illFormed rest''
            | [] => .illFormed []
          else .illFormed rest'
        | [] => .illFormed []
      else .illFormed rest
    | [] => .illFormed []
  else .illFormed rest

/-- Decode at most `fuel` parts; each takes at least one byte. -/
def decodeLossy : (fuel : Nat) → Bytes → List Char
  | 0, _ => []
  | _ + 1, [] => []
  | fuel + 1, lead :: rest =>
    match splitLead lead rest with
    | .char value rest => value :: decodeLossy fuel rest
    | .illFormed rest => '\uFFFD' :: decodeLossy fuel rest

/-- Decode a byte string, with U+FFFD for each maximal ill-formed part. -/
def ofUtf8Lossy (bytes : Bytes) : String :=
  String.ofList (decodeLossy bytes.length bytes)

end ReplicaBridge.Text
