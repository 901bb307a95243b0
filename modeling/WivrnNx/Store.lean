import Mathlib.Tactic

/-!
# The paired headsets

The key file (wivrn/store.h and .cpp) and the normalisation of keys that it is
searched by (`clean_key` in wivrn/session.cpp). Texts are lists of characters.

- `cleanKey`: a PEM text without its armour and its spaces;
- `knownKeys`, `isKeyKnown`: what a key file says;
- `addKnownKey`: the key file with one more headset.
-/

namespace WivrnNx

/-- A `std::string`. -/
abbrev Text := List Char

/-- The loop over lines: what ends in a newline, and what is left behind the last. -/
def lines : Text → List Text
  | [] => []
  | c :: rest =>
    if c = '\n' then [] :: lines rest
    else
      match lines rest with
      | [] => [[c]]
      | line :: more => (c :: line) :: more

/-! ## Keys -/

/-- `-----` -/
def dashes : Text := List.replicate 5 '-'

/-- `-----BEGIN` and `-----END` -/
def beginMark : Text := dashes ++ ['B', 'E', 'G', 'I', 'N']
def endMark : Text := dashes ++ ['E', 'N', 'D']

/-- A line of the PEM armour, as `clean_key` tells one. -/
def isArmour (line : Text) : Bool :=
  decide (beginMark <:+: line) || decide (endMark <:+: line) ||
    (decide (1 < line.length) && line.head? == some '-')

/-- Space, tab, carriage return, newline, form feed and vertical tab. -/
def isBlank (c : Char) : Bool := c ∈ [' ', '\t', '\r', '\n', '\x0c', '\x0b']

/-- `clean_key`: two spellings of the same key compare equal. -/
def cleanKey (key : Text) : Text :=
  (lines key).flatMap fun line => if isArmour line then [] else line.filter fun c => !isBlank c

/-! ## The key file -/

/-- `HeadsetKey`. -/
structure HeadsetKey where
  publicKey : Text
  name : Text
deriving DecidableEq, Repr

/-- One line of the key file: a name, a tab and a key. -/
def keyOfLine (line : Text) : Option HeadsetKey :=
  let line := if line.getLast? = some '\r' then line.dropLast else line
  if line = [] ∨ line.head? = some '#' then none
  else if '\t' ∈ line then
    some { publicKey := (line.dropWhile fun c => c != '\t').tail
           name := line.takeWhile fun c => c != '\t' }
  else none

/-- `known_keys`, of what the key file holds: nothing when it cannot be read. -/
def knownKeys (data : Text) : List HeadsetKey := (lines data).filterMap keyOfLine

/-- `is_key_known`. -/
def isKeyKnown (data cleanedPublicKey : Text) : Bool :=
  cleanedPublicKey ≠ [] && (knownKeys data).any fun k => k.publicKey == cleanedPublicKey

/-- `sanitize_name`. -/
def sanitizeName (name : Text) : Text :=
  let clean := name.map fun c => if c = '\t' ∨ c = '\r' ∨ c = '\n' then ' ' else c
  if clean = [] then "Unknown headset".toList else clean

/-- `original + " (" + std::to_string(n) + ")"`. -/
def numberedName (original : Text) (n : ℕ) : Text :=
  original ++ ' ' :: '(' :: (Nat.toDigits 10 n ++ [')'])

/-- The `while (clash)` loop, with `name` and `n` as it finds them. -/
def freeName (taken : List Text) (original : Text) : ℕ → Text → ℕ → Option Text
  | 0, _, _ => none
  | fuel + 1, name, n =>
    if name ∈ taken then freeName taken original fuel (numberedName original (n + 1)) (n + 1)
    else some name

/-- The comment that `add_known_key` starts the file with. -/
def keyFileHeader : Text :=
  "# wivrnnx paired headsets: <name>\\t<public key>".toList

/-- The loop that writes the records. -/
def keyFileText (keys : List HeadsetKey) : Text :=
  (keyFileHeader ++ ['\n']) ++ keys.flatMap fun k => k.name ++ '\t' :: (k.publicKey ++ ['\n'])

/-- `add_known_key` on a file that holds `data`: what the file holds afterwards, `none` if it
is not rewritten. `path` is whether there is a place for the file, `written` whether
`write_file_atomic` succeeds. -/
def addKnownKey (path written : Bool) (data : Text) (key : HeadsetKey) : Option Text :=
  let keys := knownKeys data
  if key.publicKey = [] then none
  else if keys.any fun k => k.publicKey == key.publicKey then none
  else
    let original := sanitizeName key.name
    -- One name more than there are records: the loop finds one
    (freeName (keys.map HeadsetKey.name) original (keys.length + 1) original 1).bind fun name =>
      let out := keyFileText (keys ++ [{ publicKey := key.publicKey, name := name }])
      if path && written then some out else none

end WivrnNx
