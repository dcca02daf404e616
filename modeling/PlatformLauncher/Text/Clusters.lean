import PlatformLauncher.Text.Properties

/-!
Extended grapheme clusters: what a reader takes for one character. `clusters` cuts a text into them;
`clusters_flatten` says that the cut loses nothing.
-/
namespace PlatformLauncher.Text

inductive ClusterClass where
  | carriageReturn | lineFeed | control | extend | joiner | regional | prepended | spacing
  | leading | vowel | trailing | syllableLV | syllableLVT | pictograph | other
deriving DecidableEq, Repr

def clusterClass (c : Char) : ClusterClass :=
  let n := c.toNat
  if n = 0x0D then .carriageReturn
  else if n = 0x0A then .lineFeed
  else if 0x20 ≤ n ∧ n < 0x7F then .other
  else if n = 0x200D then .joiner
  else if clusterControl.contains c then .control
  else if graphemeExtend.contains c || (0x1F3FB ≤ n && n ≤ 0x1F3FF) then .extend
  else if 0x1F1E6 ≤ n ∧ n ≤ 0x1F1FF then .regional
  else if prepended.contains c then .prepended
  else if spacingMark.contains c then .spacing
  else if (0x1100 ≤ n ∧ n ≤ 0x115F) ∨ (0xA960 ≤ n ∧ n ≤ 0xA97C) then .leading
  else if (0x1160 ≤ n ∧ n ≤ 0x11A7) ∨ (0xD7B0 ≤ n ∧ n ≤ 0xD7C6) then .vowel
  else if (0x11A8 ≤ n ∧ n ≤ 0x11FF) ∨ (0xD7CB ≤ n ∧ n ≤ 0xD7FB) then .trailing
  else if 0xAC00 ≤ n ∧ n ≤ 0xD7A3 then
    if (n - 0xAC00) % 28 = 0 then .syllableLV else .syllableLVT
  else if pictographic.contains c then .pictograph
  else .other

def isConjunctLinker (c : Char) : Bool :=
  [0x094D, 0x09CD, 0x0ACD, 0x0B4D, 0x0C4D, 0x0D4D].contains c.toNat

structure ClusterState where
  last : ClusterClass
  /-- the regional indicators at the end are odd in number -/
  oddRegional : Bool
  /-- a pictograph and extending characters only stand before the joiner at the end -/
  afterPictograph : Bool
  /-- a consonant and only extending characters stand at the end -/
  afterConsonant : Bool
  /-- a linker is among those extending characters -/
  linked : Bool

def ClusterState.first (c : Char) : ClusterState where
  last := clusterClass c
  oddRegional := clusterClass c == .regional
  afterPictograph := clusterClass c == .pictograph
  afterConsonant := conjunctConsonant.contains c
  linked := false

def ClusterState.next (s : ClusterState) (c : Char) : ClusterState :=
  let k := clusterClass c
  let extending := k == .extend || k == .joiner
  { last := k
    oddRegional := k == .regional && !s.oddRegional
    afterPictograph := k == .pictograph || (s.afterPictograph && s.last != .joiner && extending)
    afterConsonant := conjunctConsonant.contains c || (s.afterConsonant && extending)
    linked := s.afterConsonant && extending && (s.linked || isConjunctLinker c) }

def ClusterState.joins (s : ClusterState) (c : Char) : Bool :=
  let k := clusterClass c
  match s.last, k with
  | .carriageReturn, .lineFeed => true
  | .carriageReturn, _ | .lineFeed, _ | .control, _ => false
  | _, .carriageReturn | _, .lineFeed | _, .control => false
  | .leading, .leading | .leading, .vowel | .leading, .syllableLV | .leading, .syllableLVT => true
  | .syllableLV, .vowel | .syllableLV, .trailing | .vowel, .vowel | .vowel, .trailing => true
  | .syllableLVT, .trailing | .trailing, .trailing => true
  | _, .extend | _, .joiner | _, .spacing => true
  | .prepended, _ => true
  | .joiner, .pictograph => s.afterPictograph
  | .regional, .regional => s.oddRegional
  | _, _ => s.afterConsonant && s.linked && conjunctConsonant.contains c

def clustersAfter : ClusterState → Text → Text × List Text
  | _, [] => ([], [])
  | s, c :: r =>
    if s.joins c then
      let (more, rest) := clustersAfter (s.next c) r
      (c :: more, rest)
    else
      let (more, rest) := clustersAfter (.first c) r
      ([], (c :: more) :: rest)

def clusters : Text → List Text
  | [] => []
  | c :: r =>
    let (more, rest) := clustersAfter (.first c) r
    (c :: more) :: rest

theorem clustersAfter_flatten (s : ClusterState) (r : Text) :
    (clustersAfter s r).1 ++ (clustersAfter s r).2.flatten = r := by
  induction r generalizing s with
  | nil => rfl
  | cons c r ih =>
    unfold clustersAfter
    split <;> simp [ih]

theorem clusters_flatten (s : Text) : (clusters s).flatten = s := by
  cases s with
  | nil => rfl
  | cons c r => simp [clusters, clustersAfter_flatten]

end PlatformLauncher.Text
