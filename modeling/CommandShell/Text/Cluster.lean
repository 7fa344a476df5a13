import CommandShell.Text.ClusterClass

/-!
# Clusters

`clusters` divides a text into the clusters that a reader takes for one character each. A character
joins the cluster before it or starts a new one, which depends on its class and on what the text
before it ends in. Nothing is lost: `flatten_clusters` says that the clusters make up the text.
-/

namespace CommandShell.Text

/-- What matters of the text before a character. -/
structure ClusterContext where
  /-- The class of the last character. -/
  last : ClusterClass
  /-- The text ends in an odd number of halves of flags. -/
  oddFlags : Bool := false
  /-- The text ends in a picture with its extending characters. -/
  picture : Bool := false
  /-- The text ends in such a picture and a joiner. -/
  joinedPicture : Bool := false
  /-- The text ends in a consonant with its extending characters; tells whether a linker is among
  them. -/
  conjunct : Option Bool := none
  deriving DecidableEq, Repr

namespace ClusterContext

/-- The context at the start of a text. -/
def initial : ClusterContext := { last := .control }

/-- Whether a class adds to a picture without ending it. -/
def keepsPicture : ClusterClass → Bool
  | .extend | .linker | .nonJoiner => true
  | _ => false

/-- The conjunct that the text ends in after a further character. -/
def nextConjunct (conjunct : Option Bool) : ClusterClass → Option Bool
  | .consonant => some false
  | .linker => conjunct.map fun _ => true
  | .extend | .joiner => conjunct
  | _ => none

/-- The context after a character of a class. -/
def next (x : ClusterContext) (k : ClusterClass) : ClusterContext where
  last := k
  oddFlags := k = .flag && !x.oddFlags
  picture := k = .picture || (x.picture && keepsPicture k)
  joinedPicture := k = .joiner && x.picture
  conjunct := nextConjunct x.conjunct k

/-- Whether a character of a class joins the cluster before it. -/
def joins (x : ClusterContext) (k : ClusterClass) : Bool :=
  match x.last, k with
  | .carriageReturn, .lineFeed => true
  | .control, _ | .carriageReturn, _ | .lineFeed, _ => false
  | _, .control | _, .carriageReturn | _, .lineFeed => false
  | .leading, .leading | .leading, .vowel => true
  | .leading, .openSyllable | .leading, .closedSyllable => true
  | .openSyllable, .vowel | .openSyllable, .trailing => true
  | .vowel, .vowel | .vowel, .trailing => true
  | .closedSyllable, .trailing | .trailing, .trailing => true
  | _, .extend | _, .linker | _, .nonJoiner | _, .joiner | _, .spacing => true
  | .prepend, _ => true
  | _, .consonant => x.conjunct = some true
  | _, .picture => x.joinedPicture
  | _, .flag => x.oddFlags
  | _, _ => false

end ClusterContext

/-- The clusters of a text, of which the first one has been read in part. Its characters so far are
given backwards. -/
def clustersFrom (x : ClusterContext) (start : List Char) : List Char → List (List Char)
  | [] => [start.reverse]
  | c :: cs =>
    if x.joins (clusterClass c) then clustersFrom (x.next (clusterClass c)) (c :: start) cs
    else start.reverse :: clustersFrom (x.next (clusterClass c)) [c] cs

/-- The clusters of a text. -/
def clusters : List Char → List (List Char)
  | [] => []
  | c :: cs => clustersFrom (ClusterContext.initial.next (clusterClass c)) [c] cs

theorem flatten_clustersFrom (x : ClusterContext) (start cs : List Char) :
    (clustersFrom x start cs).flatten = start.reverse ++ cs := by
  induction cs generalizing x start with
  | nil => simp [clustersFrom]
  | cons c cs ih =>
    unfold clustersFrom
    split
    · simp [ih]
    · simp [ih]

theorem flatten_clusters (cs : List Char) : (clusters cs).flatten = cs := by
  cases cs with
  | nil => rfl
  | cons c cs => simp [clusters, flatten_clustersFrom]

end CommandShell.Text
