import PlatformLauncher.Number.Numeral
import PlatformLauncher.Text.RangeTable

/-!
Hosts given as numbers. Four parts with points between them, fewer with a wide last one, in any of
three bases; or eight groups of hexadecimal digits with colons between them, a run of zero groups
left out.
-/
namespace PlatformLauncher.Host

def part? (s : Text) : Option Nat :=
  let based := fun (base : Nat) (digits : Text) =>
    digits.foldl (fun v c => v.bind fun n =>
      match Text.hexDigit? c with
      | some d => if d < base then some (base * n + d) else none
      | none => none) (some 0)
  match s with
  | [] => none
  | '0' :: 'x' :: r | '0' :: 'X' :: r => based 16 r
  | '0' :: c :: r => based 8 (c :: r)
  | _ => based 10 s

def parts (name : Text) : List Text :=
  let ps := Text.pieces '.' name
  if ps.getLast? = some [] then ps.dropLast else ps

def endsInNumber (name : Text) : Bool :=
  match (parts name).getLast? with
  | none => false
  | some last => (!last.isEmpty && last.all Char.isDigit) || (part? last).isSome

/-- Every part but the last fits into eight bits, and the last into the bits that are left. -/
def isIpv4 (name : Text) : Bool :=
  let ps := parts name
  match ps.mapM part? with
  | some ns =>
    ns.length ≤ 4 && ns.dropLast.all (· ≤ 255) &&
      (ns.getLast?.getD 0) < twoTo (8 * (5 - ns.length))
  | none => false

def isOctet (s : Text) : Bool :=
  match s with
  | [] => false
  | ['0'] => true
  | '0' :: _ => false
  | _ => s.all Char.isDigit && s.length ≤ 3 && Numeral.value s ≤ 255

def isFourOctets (s : Text) : Bool :=
  let ps := Text.pieces '.' s
  ps.length == 4 && ps.all isOctet

def isGroup (s : Text) : Bool :=
  !s.isEmpty && s.length ≤ 4 && s.all fun c => (Text.hexDigit? c).isSome

/-- How many groups a text of groups with colons between them stands for; four decimal parts may
stand last and count twice. -/
def groups? (mayEndInOctets : Bool) (s : Text) : Option Nat :=
  if s.isEmpty then some 0
  else
    let ps := Text.pieces ':' s
    if ps.all isGroup then some ps.length
    else if mayEndInOctets && ps.dropLast.all isGroup && isFourOctets (ps.getLast?.getD []) then
      some (ps.length + 1)
    else none

def cutAtGap? : Text → Option (Text × Text)
  | ':' :: ':' :: r => some ([], r)
  | c :: r => (cutAtGap? r).map fun (a, b) => (c :: a, b)
  | [] => none

def isIpv6 (s : Text) : Bool :=
  match cutAtGap? s with
  | none => groups? true s == some 8
  | some (front, back) =>
    match groups? false front, groups? true back with
    | some a, some b => a + b ≤ 7
    | _, _ => false

end PlatformLauncher.Host
