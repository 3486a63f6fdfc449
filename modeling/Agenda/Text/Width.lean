import Agenda.Text.Ligature

/-! # Display width

The number of columns that a line takes on a screen. Most characters take one, marks none, and East
Asian letters and pictures two. A few characters change the width of the one before them, so a line
is measured from its end.
-/

namespace Agenda.Width

open CharRanges (covers)
open Ligature (Link join?)
open WidthTable

/-- How the character in front is asked to show. -/
inductive Request
  | none
  | text
  | picture
  deriving Repr, DecidableEq

/-- What matters about the characters that follow. -/
structure Following where
  request : Request := .none
  link : Link := .none
  deriving Repr, DecidableEq

namespace Following

/-- What is left of a request to show a picture when the character in front cannot show as one. -/
def withoutPicture (following : Following) : Following :=
  if following.request = .picture then
    { link := if following.link.isScript then following.link else .none }
  else following

/-- What follows a request to show a picture. -/
def requestPicture (following : Following) : Following where
  request := .picture
  link :=
    if following.link.isScript || following.link == .joined || following.link == .joinedKey then
      following.link
    else .none

def requestText (following : Following) : Following where
  request := .text
  link := if following.link.isScript then following.link else .none

end Following

def ofChar (c : Char) : Int :=
  if covers zeroRanges c then 0
  else if c = '\u17d8' then 3
  else if covers wideRanges c then 2
  else 1

/-- The width that a character adds in front of what follows it, and what it means for the one
before it. -/
def add (c : Char) (following : Following) : Int × Following :=
  if following.request = .picture ∧ (covers textRanges c || covers pictureRanges c) then
    (if following.link = .joined ∨ following.link = .joinedKey then 0 else 2, { link := .picture })
  else
    let following := following.withoutPicture
    if c ≤ '\u00a0' then (1, {})
    else if c = '\ufe0f' then (0, following.requestPicture)
    else if c = '\ufe0e' then (0, following.requestText)
    else if following.request = .text ∧ covers eitherRanges c then (1, {})
    else
      match join? c following.link with
      | some (width, link) => (width, { link })
      | none => (ofChar c, { link := .ofChar c })

/-- The width of a line, and what it means for a character in front of it. -/
def measure : List Char → Int × Following
  | [] => (0, {})
  | c :: rest =>
    let (width, following) := measure rest
    let (added, following) := add c following
    (width + added, following)

def columns (line : List Char) : Nat :=
  (measure line).1.toNat

end Agenda.Width
