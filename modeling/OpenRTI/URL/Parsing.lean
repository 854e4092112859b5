import Mathlib.Data.List.TakeWhile
import OpenRTI.URL.Quoting

/-!
# Uniform resource locators

A URL is written part by part, and read by looking for the characters that
separate its parts.  A position in a string is none where the source has a
position behind all others.
-/

namespace OpenRTI
namespace URL

/-! ## Strings -/

/-- The first position of a character from another position on. -/
def find (s : ByteString) (c : UInt8) (pos : Nat) : Option Nat :=
  ((s.drop pos).findIdx? (· = c)).map (· + pos)

/-- The last position of a character. -/
def rfind (s : ByteString) (c : UInt8) : Option Nat :=
  (s.reverse.findIdx? (· = c)).map (s.length - 1 - ·)

/-- The first position of a string. -/
def findString (pattern : ByteString) : ByteString → Option Nat
  | [] => if pattern = [] then some 0 else none
  | c :: rest =>
      if pattern.isPrefixOf (c :: rest) then some 0
      else (findString pattern rest).map (· + 1)

/-- The characters from a position on, and no more than a number of them. -/
def substr (s : ByteString) (pos : Nat) : Option Nat → ByteString
  | none => s.drop pos
  | some length => (s.drop pos).take length

/-- The smaller one of two positions. -/
def minPosition : Option Nat → Option Nat → Option Nat
  | none, right => right
  | left, none => left
  | some left, some right => some (min left right)

/-- Split a string between runs of separators.  Nothing follows a run at the
end. -/
def split (separators : List UInt8) (s : ByteString) : List ByteString :=
  match _rest : s.dropWhile (· ∉ separators) with
  | [] => [s]
  | _ :: rest =>
      s.takeWhile (· ∉ separators) ::
        if rest.dropWhile (· ∈ separators) = [] then []
        else split separators (rest.dropWhile (· ∈ separators))
termination_by s.length
decreasing_by
  have behind := (@List.dropWhile_sublist _ rest (· ∈ separators)).length_le
  have within := (@List.dropWhile_sublist _ s (· ∉ separators)).length_le
  rw [_rest, List.length_cons] at within
  omega

/-- Separate host and port. -/
def parseInetAddress (address : ByteString) : ByteString × ByteString :=
  match address with
  | [] => ([], [])
  | first :: _ =>
      if first = openBracket then
        match rfind address closeBracket with
        | none => (substr address 1 none, [])
        | some pos =>
            (substr address 1 (some (pos - 1)),
              match find address colon pos with
              | none => []
              | some pos => substr address (pos + 1) none)
      else
        match rfind address colon with
        | none => (address, [])
        | some pos =>
            if some pos ≠ find address colon 0 then (address, [])
            else
              (substr address 0 (some pos), substr address (pos + 1) none)

end URL

/-! ## The parts of a URL -/

open URL in
structure URL where
  protocol : ByteString := []
  host : ByteString := []
  service : ByteString := []
  path : ByteString := []
  query : List (ByteString × ByteString) := []
  ref : ByteString := []
  deriving DecidableEq

namespace URL

/-- The key and the value of a query. -/
def parseQuery (query : ByteString) : ByteString × ByteString :=
  match find query equals 0 with
  | some pos =>
      (unquote (substr query 0 (some pos)),
        unquote (substr query (pos + 1) none))
  | none => (unquote query, [])

/-- Read the path, the queries and the reference.  The length of the queries
is an unsigned difference, which is beyond the end of the string when they
begin behind the reference. -/
def parsePath (url : URL) (s : ByteString) (pathBegin : Nat) : URL :=
  let queryBegin := find s questionMark pathBegin
  let refBegin := find s hash pathBegin
  { url with
    query :=
      match queryBegin with
      | none => []
      | some queryBegin =>
          (split [ampersand, semicolon] (substr s (queryBegin + 1)
            (refBegin.bind fun refBegin =>
              if queryBegin < refBegin then some (refBegin - queryBegin - 1)
              else none))).map parseQuery
    ref :=
      match refBegin with
      | none => []
      | some refBegin => unquote (substr s (refBegin + 1) none)
    path :=
      unquote (substr s pathBegin
        ((minPosition queryBegin refBegin).map (· - pathBegin))) }

def fromUrl (s : ByteString) : URL :=
  let protocolEnd := findString [colon, slash, slash] s
  let addressBegin := (protocolEnd.map (· + 3)).getD 0
  let pathBegin := find s slash addressBegin
  let address := parseInetAddress
    (substr s addressBegin (pathBegin.map (· - addressBegin)))
  let url : URL :=
    { protocol := (protocolEnd.map fun length =>
        unquote (substr s 0 (some length))).getD []
      host := unquote address.1
      service := unquote address.2 }
  match pathBegin with
  | none => url
  | some pathBegin => parsePath url s pathBegin

/-- One query as it is written. -/
def strQuery (query : ByteString × ByteString) : ByteString :=
  quote query.1 false ++
    if query.2 = [] then [] else equals :: quote query.2 false

/-- Write the queries, of which the first one follows a question mark. -/
def strQueries (separator : UInt8) :
    List (ByteString × ByteString) → ByteString
  | [] => []
  | query :: queries =>
      separator :: strQuery query ++ strQueries ampersand queries

def str (self : URL) : ByteString :=
  (if self.protocol = [] then [] else self.protocol ++ [colon]) ++
    [slash, slash] ++ self.host ++
    (if self.service = [] then [] else colon :: self.service) ++
    quote self.path true ++ strQueries questionMark self.query ++
    if self.ref = [] then [] else hash :: quote self.ref false

end URL
end OpenRTI
