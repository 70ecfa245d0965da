import DhcpServer.Address.Ipv4
import DhcpServer.HexText

/-!
# IPv6 addresses

An address is eight words.  Its text is the words in hexadecimal, separated by
colons, where the first of the longest runs of at least two zero words is left
out between two colons.  An address that only carries an IPv4 address in its
last two words shows those in dotted form.
-/

namespace DhcpServer

/-- An IPv6 address, as its eight words in network order. -/
structure Ipv6 where
  words : List UInt16
  length_words : words.length = 8
deriving DecidableEq, Repr

namespace Ipv6

/-- The address that stands for no address at all. -/
def unspecified : Ipv6 := ⟨List.replicate 8 0, rfl⟩

instance : Inhabited Ipv6 := ⟨unspecified⟩

/-- The address with the given words, if there are eight of them. -/
def ofWords? (ws : List UInt16) : Option Ipv6 :=
  if h : ws.length = 8 then some ⟨ws, h⟩ else none

/-- A run of zero words: where it starts and how many words it has. -/
structure ZeroRun where
  start : Nat
  size : Nat
deriving DecidableEq, Repr

/-- The first of the longest runs of zero words, `start` being the index of the
first of the given words. -/
def longestRun (start : Nat) : List UInt16 → ZeroRun
  | [] => ⟨start, 0⟩
  | w :: ws =>
    let here : ZeroRun := ⟨start, ((w :: ws).takeWhile (· = 0)).length⟩
    let later := longestRun (start + 1) ws
    if later.size ≤ here.size then here else later

/-- Words in hexadecimal without leading zeros, separated by colons. -/
def wordsText (ws : List UInt16) : String :=
  String.intercalate ":" (ws.map fun w => String.ofList (HexText.short w.toNat))

/-- The IPv4 address in the last two words. -/
def lastAddress (a : Ipv6) : Ipv4 :=
  match a.words.drop 6 with
  | [hi, lo] => ⟨UInt32.ofNat (hi.toNat * 0x10000 + lo.toNat)⟩
  | _ => .unspecified

/-- Whether an address whose longest run of zero words is `run` does no more
than carry an IPv4 address. -/
def carriesIpv4 (a : Ipv6) (run : ZeroRun) : Bool :=
  run.start = 0 && (run.size = 6 || (run.size = 5 && a.words[5]? = some 0xffff))

/-- Words before and after the run of zeros that is left out. -/
def text (a : Ipv6) : String :=
  let run := longestRun 0 a.words
  if run.size < 2 then wordsText a.words
  else if a.carriesIpv4 run then
    if run.size = 6 then "::" ++ a.lastAddress.text
    else "::" ++ wordsText ((a.words.drop 5).take 1) ++ ":" ++ a.lastAddress.text
  else wordsText (a.words.take run.start) ++ "::" ++ wordsText (a.words.drop (run.start + run.size))

/-- The word that one to four hexadecimal digits write. -/
def word? (digits : List Char) : Option UInt16 :=
  if digits.isEmpty || 4 < digits.length then none
  else do
    let n ← digits.foldlM (fun n c => do
      let d ← if c.isDigit then some (c.toNat - '0'.toNat)
        else if 'a' ≤ c ∧ c ≤ 'f' then some (c.toNat - 'a'.toNat + 10)
        else if 'A' ≤ c ∧ c ≤ 'F' then some (c.toNat - 'A'.toNat + 10)
        else none
      return n * 16 + d) 0
    return UInt16.ofNat n

/-- The words of groups that were separated by colons; the last group may be an
IPv4 address in dotted form. -/
def groups? : List (List Char) → Option (List UInt16)
  | [] => some []
  | [[]] => some []
  | [last] =>
    if last.contains '.' then do
      let a ← Ipv4.ofText? last
      return [UInt16.ofNat (a.word.toNat / 0x10000), UInt16.ofNat a.word.toNat]
    else do return [← word? last]
  | g :: gs => do return (← word? g) :: (← groups? gs)

/-- What stands before and after the first pair of colons, if there is one. -/
def splitElision? : List Char → Option (List Char × List Char)
  | ':' :: ':' :: rest => some ([], rest)
  | c :: rest => (splitElision? rest).map fun parts => (c :: parts.1, parts.2)
  | [] => none

/-- The address that the text writes. -/
def ofText? (text : List Char) : Option Ipv6 :=
  match splitElision? text with
  | none => do ofWords? (← groups? (text.splitOn ':'))
  | some (front, back) => do
    let front ← groups? (front.splitOn ':')
    let back ← groups? (back.splitOn ':')
    if front.length + back.length < 8 then
      ofWords? (front ++ List.replicate (8 - front.length - back.length) 0 ++ back)
    else none

end Ipv6

end DhcpServer
