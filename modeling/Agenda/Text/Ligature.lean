import Agenda.Text.CharRanges
import Agenda.Text.WidthTable

/-! # Characters that join

Some characters form one sign with those after them: letters run together, pictures are joined to
one picture, and two halves make a flag. A `Link` is what a character offers to the one before it,
and the table `joints` says which characters take the offer.
-/

namespace Agenda.Ligature

open WidthTable

/-- What a character offers to the one before it. -/
inductive Link
  | none
  | picture
  | skinTone
  /-- A joiner in front of a picture. -/
  | joined
  /-- The box of a key in front of such a joiner. -/
  | joinedKey
  /-- One half of a flag. -/
  | flagHalf
  | flagHalves
  /-- An odd number of halves of flags in front of a joiner, of which the first has no partner. -/
  | joinedHalf
  | joinedFlag
  | joinedFlagAndHalf
  | alef
  | lamed
  | joinedLamed
  | buginese
  | joinedBuginese
  | bugineseVowel
  | tifinagh
  | joinedTifinagh
  | tifinaghJoiner
  | lisuTone
  | turkic
  | joinedTurkic
  /-- A Khmer letter that can be written below another. -/
  | khmer
  | kiratShort
  | kiratLong
  deriving Repr, DecidableEq

namespace Link

/-- Whether the link is one between letters. It outlasts a request for text or picture. -/
def isScript : Link → Bool
  | alef | lamed | joinedLamed | buginese | joinedBuginese | bugineseVowel | tifinagh
  | joinedTifinagh | tifinaghJoiner | lisuTone | turkic | joinedTurkic | khmer => true
  | _ => false

/-- Whether invisible marks and joiners may stand within the link. -/
def isSpanning (link : Link) : Bool :=
  link.isScript && link != alef

def withJoiner : Link → Link
  | lamed => joinedLamed
  | buginese => joinedBuginese
  | tifinagh => joinedTifinagh
  | turkic => joinedTurkic
  | link => link

/-- What a character offers when nothing after it concerns it. -/
def ofChar (c : Char) : Link :=
  if '🏻' ≤ c ∧ c ≤ '🏿' then skinTone
  else if '🇦' ≤ c ∧ c ≤ '🇿' then flagHalf
  else if CharRanges.covers pictureRanges c then picture
  else if CharRanges.covers alefRanges c then alef
  else if CharRanges.covers khmerRanges c then khmer
  else if CharRanges.covers tifinaghRanges c then tifinagh
  else if c = '\u05dc' then lamed
  else if c = '\u1a10' then buginese
  else if c = '\ua4fc' ∨ c = '\ua4fd' then lisuTone
  else if c.toNat = 0x10C03 then turkic
  else if c.toNat = 0x16D67 then kiratShort
  else if c.toNat = 0x16D68 then kiratLong
  else none

end Link

/-- A joint: characters that take what comes after them, the width that they add, and what they
offer in turn. -/
structure Joint where
  after : Link
  ranges : List (Nat × Nat)
  width : Int
  link : Link

def joiner : Char := '\u200d'

def joinerRange : List (Nat × Nat) := [(0x200D, 0x200D)]

/-- The halves of flags. -/
def flagRange : List (Nat × Nat) := [(0x1F1E6, 0x1F1FF)]

def joints : List Joint :=
  [⟨.picture, joinerRange, 0, .joined⟩,
   ⟨.skinTone, toneRanges, 0, .picture⟩,
   ⟨.skinTone, joinerRange, 0, .joined⟩,
   ⟨.joined, [(0x20E3, 0x20E3)], 0, .joinedKey⟩,
   ⟨.joined, [(0x1F3FB, 0x1F3FF)], 0, .skinTone⟩,
   ⟨.joined, pictureRanges, 0, .picture⟩,
   ⟨.joined, flagRange, 1, .joinedHalf⟩,
   ⟨.joinedHalf, flagRange, -1, .joinedFlag⟩,
   ⟨.joinedFlag, flagRange, 3, .joinedFlagAndHalf⟩,
   ⟨.joinedFlag, joinerRange, 0, .joined⟩,
   ⟨.joinedFlagAndHalf, flagRange, -1, .joinedFlag⟩,
   ⟨.joinedFlagAndHalf, joinerRange, 0, .joined⟩,
   ⟨.flagHalf, flagRange, 1, .flagHalves⟩,
   ⟨.flagHalves, flagRange, 1, .flagHalves⟩,
   ⟨.flagHalves, joinerRange, 0, .joined⟩,
   ⟨.alef, lamRanges, 0, .none⟩,
   ⟨.joinedLamed, [(0x5D0, 0x5D0)], 0, .none⟩,
   ⟨.joinedBuginese, [(0x1A17, 0x1A17)], 0, .bugineseVowel⟩,
   ⟨.bugineseVowel, [(0x1A15, 0x1A15)], 0, .none⟩,
   ⟨.tifinagh, [(0x2D7F, 0x2D7F)], 1, .tifinaghJoiner⟩,
   ⟨.joinedTifinagh, [(0x2D7F, 0x2D7F)], 1, .tifinaghJoiner⟩,
   ⟨.joinedTifinagh, tifinaghRanges, 0, .none⟩,
   ⟨.tifinaghJoiner, tifinaghRanges, -1, .none⟩,
   ⟨.lisuTone, [(0xA4F8, 0xA4FB)], 0, .none⟩,
   ⟨.joinedTurkic, [(0x10C32, 0x10C32)], 0, .none⟩,
   ⟨.khmer, [(0x17D2, 0x17D2)], -1, .none⟩,
   ⟨.kiratShort, [(0x16D63, 0x16D63)], 0, .none⟩,
   ⟨.kiratShort, [(0x16D67, 0x16D67)], 0, .kiratLong⟩,
   ⟨.kiratShort, [(0x16D68, 0x16D68)], 1, .kiratShort⟩,
   ⟨.kiratShort, [(0x16D69, 0x16D69)], 0, .none⟩,
   ⟨.kiratLong, [(0x16D63, 0x16D63)], 0, .none⟩]

/-- Whether a character is an invisible mark that may stand within a link between letters. -/
def isInvisibleMark (c : Char) : Bool :=
  CharRanges.covers invisibleRanges c

/-- Whether a character is a mark that may stand between a lam and an alef. -/
def isMark (c : Char) : Bool :=
  CharRanges.covers zeroRanges c && !CharRanges.covers opaqueRanges c

/-- The width that a character adds by joining what comes after it, and what it offers in turn. -/
def join? (c : Char) (after : Link) : Option (Int × Link) :=
  if after = .none then none
  else if after.isSpanning && c == joiner then some (0, after.withJoiner)
  else if after.isSpanning && isInvisibleMark c then some (0, after)
  else if after = .alef && isMark c then some (0, after)
  else
    (joints.find? fun joint => joint.after == after && CharRanges.covers joint.ranges c).map
      fun joint => (joint.width, joint.link)

end Agenda.Ligature
