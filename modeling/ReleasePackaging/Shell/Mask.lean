import ReleasePackaging.Shell.Numeral

/-!
# The mask of new files

The mask says which permissions new files do not get: reading, writing and executing, for their owner,
their group and others. It is written in octal, or as the permissions that are left.
-/
namespace ReleasePackaging.Shell.Mask

def all : Nat := 0o777

def left (mask : Nat) : Nat := all - mask % 512

/-- A mask in octal, with four digits. -/
def octal (mask : Nat) : Octets :=
  let digits := Nat.toDigits 8 mask
  List.replicate (4 - digits.length) '0' ++ digits

/-- The permissions that are left by a mask, by name. -/
def named (mask : Nat) : Octets :=
  let part (letter : Char) (bits : Nat) : Octets :=
    letter :: '=' :: ((if bits &&& 4 != 0 then ['r'] else []) ++ (if bits &&& 2 != 0 then ['w'] else []) ++
      (if bits &&& 1 != 0 then ['x'] else []))
  let n := left mask
  [','].intercalate [part 'u' (n / 64 % 8), part 'g' (n / 8 % 8), part 'o' (n % 8)]

/-- Those for whom letters change permissions, as a factor of one digit. -/
def placesOf (letters : List Char) : Nat :=
  letters.foldl (fun n c =>
    n ||| match c with
      | 'u' => 0o100
      | 'g' => 0o010
      | 'o' => 0o001
      | _ => 0o111) 0

/-- The permissions that letters stand for, as one digit; some stand for what was left before. -/
def digitOf (before : Nat) (letters : List Char) : Nat :=
  (letters.foldl (fun n c =>
    n ||| match c with
      | 'r' => 4
      | 'w' => 2
      | 'x' => 1
      | 'u' => before / 64
      | 'g' => before / 8
      | 'o' => before
      | 'X' => if before &&& 0o111 != 0 then 1 else 0
      | _ => 0) 0) % 8

/-- The permissions left after the changes that a text asks for, if it is well formed. -/
def changed? (fuel : Nat) (before now places : Nat) (cs : Octets) : Option Nat :=
  match fuel, cs with
  | 0, _ | _, [] => some now
  | fuel + 1, cs =>
    let letters := cs.takeWhile "augo".toList.contains
    let places := places ||| placesOf letters
    let places := if places = 0 then 0o111 else places
    match cs.drop letters.length with
    | [] => some now
    | op :: rest =>
      if !"=+-".toList.contains op then none
      else
        let what := rest.takeWhile "rwxugoXs".toList.contains
        let bits := digitOf before what * places
        let now := match op with
          | '-' => now &&& (all - bits)
          | '=' => bits ||| (now &&& (all - places * 7))
          | _ => now ||| bits
        match rest.drop what.length with
        | ',' :: rest => changed? fuel before now 0 rest
        | [] => some now
        | c :: rest => if "=+-".toList.contains c then changed? fuel before now places (c :: rest) else none

/-- The mask that a word gives, or why it gives none. -/
def ofWord (mask : Nat) (word : Octets) : Except Octets Nat :=
  if word.head?.any Char.isDigit then
    if word.all fun c => '0' ≤ c && c ≤ '7' then .ok (sizeOf 8 word % 512)
    else .error ("Illegal number: ".toList ++ word)
  else
    match changed? (word.length + 1) (left mask) (left mask) 0 word with
    | some now => .ok (all - now)
    | none => .error ("Illegal mode: ".toList ++ word)

end ReleasePackaging.Shell.Mask
