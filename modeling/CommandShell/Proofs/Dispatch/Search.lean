import CommandShell.Proofs.Dispatch.ProgramLine
import CommandShell.Proofs.Store.Start

/-!
# What is said of a name and what is done with it

The builtin `type` tells what a name would run, by a search of its own in the search path. The
system makes the search that counts when the name is used. The two agree: on the builtin commands,
on the file that is started, and on the names for which nothing is started.

* `fullPath_eq_find?`, `PlainSearch.programPaths` — both go through the same paths in the same
  order.
* `PlainSearch.request` — the system starts the file that `type` tells, if there is one.
* `run_type_eq_iff` — when each of the three answers is given.
* `type_tells_dispatch` — the answers against what is done.
-/

namespace CommandShell

open Store

/-! ## Names and paths -/

namespace World

variable {w w' : World} {name : String} {args : List String}

/-- The paths under which a name is looked for. -/
def candidates (w : World) (name : String) : List String :=
  w.searchDirs.map fun dir => dir ++ "/" ++ name

theorem fullPath_eq_find? (w : World) (name : String) :
    w.fullPath name =
      (w.candidates name).find? fun path => w.store.isRunnable w.cwd (Utf8.encode path) :=
  rfl

theorem separator_mem_of_candidate {path : String} (h : path ∈ w.candidates name) :
    '/' ∈ path.toList := by
  obtain ⟨dir, _, rfl⟩ := List.mem_map.1 h
  simp

theorem separator_mem_of_fullPath {path : String} (h : w.fullPath name = some path) :
    '/' ∈ path.toList :=
  separator_mem_of_candidate (List.mem_of_find?_eq_some h)

/-- The world in which the system looks for a program. -/
def asked (w : World) (name : String) : World :=
  w.debug .commands ("external: " ++ name)

theorem outputOnly_asked (w : World) (name : String) : OutputOnly w (w.asked name) :=
  w.outputOnly_log _

theorem sameShape_asked (w : World) (name : String) : SameShape w.store (w.asked name).store :=
  (w.logsOnly_log _).shape

/-- A name is one part of a path, the search path is a text without empty entries, and a search in
it stops at nothing but a file that can be started. -/
structure PlainSearch (w : World) (name : String) (args : List String) : Prop where
  nonempty : name ≠ ""
  noSeparator : '/' ∉ name.toList
  noNul : nul ∉ name.toList
  short : (Utf8.encode name).length ≤ Path.maxNameLength
  entries : ∃ p, w.env.get? "PATH" = some (Utf8.encode p) ∧ [] ∉ p.toList.splitOn ':'
  /-- Where there is nothing, that is because something is missing or is no directory. -/
  passes : ∀ path ∈ w.candidates name, ∀ e, w.store.lookup w.cwd (Utf8.encode path) = .error e →
    e = .errno .noEntry ∨ e = .errno .notDirectory
  /-- A file that may be run can be started with the arguments. -/
  starts : ∀ path ∈ w.candidates name, w.store.isRunnable w.cwd (Utf8.encode path) = true →
    (∀ a ∈ args, nul ∉ a.toList) ∧
      ∃ found, (w.asked name).store.start w.cwd (w.argumentsFit (name :: args)) maxOpened
        (Utf8.encode path) = .ok found

/-- What is too long for a path is not looked up. -/
theorem lookup_too_long {s : Store} {cwd : NodeId} {path : Bytes}
    (h : Path.maxLength < path.length) :
    s.lookup cwd path = .error .nulInPath ∨ s.lookup cwd path = .error (.errno .nameTooLong) := by
  have hne : path.isEmpty = false := by
    cases path with
    | nil => simp at h
    | cons b rest => rfl
  by_cases hnul : (0 : UInt8) ∈ path
  · refine Or.inl ?_
    rw [lookup, locate, Path.parse, if_pos (List.contains_iff_mem.2 hnul)]
  · refine Or.inr ?_
    have hparse : Path.parse path = .error (.errno .nameTooLong) := by
      rw [Path.parse, if_neg (fun hmem => hnul (List.contains_iff_mem.1 hmem)), hne, if_pos h]
      rfl
    rw [lookup, locate, hparse]

theorem PlainSearch.searchDirs (h : w.PlainSearch name args) :
    ∃ p, w.env.get? "PATH" = some (Utf8.encode p) ∧ [] ∉ p.toList.splitOn ':' ∧
      w.searchDirs = (p.toList.splitOn ':').map String.ofList := by
  obtain ⟨p, hp, hne⟩ := h.entries
  have htext : w.env.text? "PATH" = some p := by
    rw [Environment.text?, hp, Option.bind_some, Utf8.decode?_encode]
  have hall : (p.toList.splitOn ':').filter (fun d => !d.isEmpty) = p.toList.splitOn ':' := by
    rw [List.filter_eq_self]
    intro d hd
    cases d with
    | nil => exact absurd hd hne
    | cons c cs => rfl
  refine ⟨p, hp, hne, ?_⟩
  rw [World.searchDirs, htext]
  simp only [hall]

/-- No directory of the search path is too long. -/
theorem PlainSearch.length_le (h : w.PlainSearch name args) {dir : String}
    (hdir : dir ∈ w.searchDirs) : (Utf8.encode dir).length ≤ Path.maxLength := by
  apply Nat.le_of_not_lt
  intro hlong
  have hpath : dir ++ "/" ++ name ∈ w.candidates name := List.mem_map.2 ⟨dir, hdir, rfl⟩
  have hlong' : Path.maxLength < (Utf8.encode (dir ++ "/" ++ name)).length := by
    simp only [Utf8.encode_append, List.length_append]
    omega
  rcases lookup_too_long hlong' with hlookup | hlookup
  · rcases h.passes _ hpath _ hlookup with heq | heq <;> cases heq
  · rcases h.passes _ hpath _ hlookup with heq | heq <;> cases heq

/-- The entries of the search path are its directories. -/
theorem PlainSearch.searchEntries (h : w.PlainSearch name args) :
    w.searchEntries = w.searchDirs.map Utf8.encode := by
  obtain ⟨p, hp, _, hdirs⟩ := h.searchDirs
  have hpieces : Path.pieces 0x3A (Utf8.encode p) = w.searchDirs.map Utf8.encode := by
    have hcut := Utf8.splitOn_encode (show ':'.toNat < 0x80 by decide) p.toList
    rw [String.ofList_toList] at hcut
    rw [hdirs, List.map_map]
    exact hcut
  have hfits : ∀ b ∈ w.searchDirs.map Utf8.encode, b.length ≤ Path.maxLength := by
    intro b hb
    obtain ⟨dir, hdir, rfl⟩ := List.mem_map.1 hb
    exact h.length_le hdir
  have hne : w.searchDirs.map Utf8.encode ≠ [] := by
    rw [← hpieces]
    exact List.splitOn_ne_nil 0x3A (Utf8.encode p)
  rw [World.searchEntries, hp, Option.getD_some, hpieces]
  generalize w.searchDirs.map Utf8.encode = entries at hfits hne
  have hbefore : entries.dropLast.map (fun dir => if dir.length ≤ Path.maxLength then dir else []) =
      entries.dropLast := by
    rw [List.map_congr_left fun dir hdir => if_pos (hfits dir (List.dropLast_subset _ hdir)),
      List.map_id']
  have hlast : entries.getLast?.toList.filter (fun dir => decide (dir.length ≤ Path.maxLength)) =
      [entries.getLast hne] := by
    rw [List.getLast?_eq_some_getLast hne]
    simp [hfits _ (List.getLast_mem hne)]
  simp only [decide_eq_true_eq]
  rw [hbefore, hlast, List.dropLast_concat_getLast]

/-- The system looks under the same paths, in the same order. -/
theorem PlainSearch.programPaths (h : w.PlainSearch name args) :
    w.programPaths (Utf8.encode name) = (w.candidates name).map Utf8.encode := by
  obtain ⟨p, _, hnot, hdirs⟩ := h.searchDirs
  have htake : (Utf8.encode name).take (Path.maxNameLength + 1) = Utf8.encode name :=
    List.take_of_length_le (Nat.le_succ_of_le h.short)
  have hseparator : Utf8.encode "/" = [Path.separator] := by decide
  simp only [World.programPaths, htake, h.searchEntries, candidates, List.map_map]
  refine List.map_congr_left fun dir hdir => ?_
  have hne : (Utf8.encode dir).isEmpty = false := by
    rw [List.isEmpty_eq_false_iff, Ne, Utf8.encode_eq_nil]
    rintro rfl
    rw [hdirs] at hdir
    obtain ⟨d, hd, hempty⟩ := List.mem_map.1 hdir
    have hnil : d = [] := by simpa using congrArg String.toList hempty
    exact hnot (hnil ▸ hd)
  simp only [Function.comp_apply, hne, Bool.false_eq_true, if_false, Utf8.encode_append,
    hseparator, List.append_assoc, List.singleton_append]

/-! ## The search of the system -/

/-- The failures that a search meets on its way. A part of the search path that is no directory is
one of them only where there is such a part. -/
def Met (w : World) (name : String) (e : Errno) : Prop :=
  e = .noEntry ∨ e = .accessDenied ∨ e = .notDirectory ∧
    ∃ path ∈ w.candidates name, w.store.lookup w.cwd (Utf8.encode path) = .error (.errno e)

theorem PlainSearch.searchable (h : w.PlainSearch name args) :
    (w.asked name).store.Searchable w.cwd (w.argumentsFit (name :: args)) (w.Met name)
      ((w.candidates name).map Utf8.encode) := by
  have hrunnable := isRunnable_of_sameShape (w.sameShape_asked name) w.cwd
  have hlookup := lookup_of_sameShape (w.sameShape_asked name) w.cwd
  constructor
  case starts =>
    intro b hb hrun
    obtain ⟨path, hpath, rfl⟩ := List.mem_map.1 hb
    rw [hrunnable] at hrun
    exact (h.starts path hpath hrun).2
  case passes =>
    intro b hb hrun
    obtain ⟨path, hpath, rfl⟩ := List.mem_map.1 hb
    rcases start_of_not_runnable hrun maxOpened with ⟨e, hfound, hstart⟩ | hdenied
    · rw [hlookup] at hfound
      rcases h.passes path hpath e hfound with rfl | rfl
      · exact ⟨_, Or.inl rfl, hstart⟩
      · exact ⟨_, Or.inr (Or.inr ⟨rfl, path, hpath, hfound⟩), hstart⟩
    · exact ⟨_, Or.inr (Or.inl rfl), hdenied⟩

/-- The system starts the file that the search path gives for a name, if there is one. Otherwise the
request is refused. -/
theorem PlainSearch.findProgram (h : w.PlainSearch name args) :
    match w.fullPath name with
    | some path => ∃ found, (w.asked name).findProgram (w.argumentsFit (name :: args))
        (Utf8.encode name) = .ok found ∧ found.path = Utf8.encode path
    | none => ∃ e, w.Met name e ∧ (w.asked name).findProgram (w.argumentsFit (name :: args))
        (Utf8.encode name) = .error (.errno e) := by
  have hnul : (Utf8.encode name).contains 0 = false :=
    Bool.eq_false_iff.2 fun hmem => h.noNul
      ((Utf8.mem_encode (a := nul) (by decide) name).1 (List.contains_iff_mem.1 hmem))
  have hseparator : (Utf8.encode name).contains Path.separator = false :=
    Bool.eq_false_iff.2 fun hmem => h.noSeparator
      ((Utf8.mem_encode (a := '/') (by decide) name).1 (List.contains_iff_mem.1 hmem))
  have hempty : (Utf8.encode name).isEmpty = false := by
    rw [List.isEmpty_eq_false_iff, Ne, Utf8.encode_eq_nil]
    exact h.nonempty
  have hpaths : (w.asked name).programPaths (Utf8.encode name) =
      (w.candidates name).map Utf8.encode := by
    rw [← h.programPaths]
    simp only [World.programPaths, World.searchEntries, (w.outputOnly_asked name).env]
  have hfind : ((w.candidates name).map Utf8.encode).find?
      ((w.asked name).store.isRunnable w.cwd) = (w.fullPath name).map Utf8.encode := by
    rw [List.find?_map, fullPath_eq_find?]
    refine congrArg (Option.map Utf8.encode) (congrArg (List.find? · _) (funext fun path => ?_))
    exact isRunnable_of_sameShape (w.sameShape_asked name) w.cwd (Utf8.encode path)
  have hmet : ∀ e, w.Met name e → e ∈ passedOver := by
    rintro e (rfl | rfl | ⟨rfl, _⟩) <;> decide
  have hmissing : w.Met name .noEntry := Or.inl rfl
  have hsearch := startFirst_eq_find? hmet hmissing h.searchable
  rw [hfind] at hsearch
  simp only [World.findProgram, hnul, hempty, hseparator, hpaths, (w.outputOnly_asked name).cwd]
  cases hfull : w.fullPath name with
  | none =>
    rw [hfull] at hsearch
    simpa using hsearch
  | some path =>
    rw [hfull] at hsearch
    simpa using hsearch

/-! ## What is done -/

/-- What is asked of the system for a name that is no builtin command. -/
theorem dispatch_program (hname : Builtin.ofName? name = none) (args : List String) :
    w.dispatch name args =
      match (w.asked name).runProgram name args with
      | (w, .ok o) => (w, .output o)
      | (w, .error e) => (w, .output (.ofError e)) :=
  w.dispatch_external hname args

/-- A name that is no builtin command is always looked for by the system. -/
theorem launches_program (hname : Builtin.ofName? name = none) (args : List String) :
    (w.dispatch name args).1.launches =
      ⟨name, args, [], Started.toResult ((w.asked name).request name args)⟩ :: w.launches := by
  rw [dispatch_program hname, ← (w.outputOnly_asked name).launches]
  cases hrequest : (w.asked name).request name args with
  | error e =>
    rw [runProgram_refused hrequest]
    rfl
  | ok found =>
    rw [runProgram_started hrequest]
    simp only [launch, launches_ended]
    rfl

theorem dispatch_refused (hname : Builtin.ofName? name = none) {e : OsError}
    (h : (w.asked name).request name args = .error e) :
    (w.dispatch name args).2 = .output (.ofError (refusal name e)) := by
  rw [dispatch_program hname, runProgram_refused h]

theorem launches_builtin (w : World) (name : String) (args : List String) :
    (Builtin.run w name args).1.launches = w.launches := by
  rw [runBuiltin_world]

/-- A builtin command is run without the system. -/
theorem launches_dispatch_builtin {b : Builtin} (hname : Builtin.ofName? name = some b)
    (args : List String) : (w.dispatch name args).1.launches = w.launches := by
  by_cases hb : b = .exit
  · subst hb
    rw [dispatch_exit w hname]
  · rw [dispatch_builtin w hname hb, launches_builtin]
    exact (w.outputOnly_log _).launches

end World

/-! ## What builtin commands report -/

/-- The last two characters of a text, the last one first. -/
def lastTwo (s : String) : List Char :=
  s.toList.reverse.take 2

theorem lastTwo_append (s : String) {t : String} (h : 2 ≤ t.toList.length) :
    lastTwo (s ++ t) = lastTwo t := by
  rw [lastTwo, lastTwo, String.toList_append, List.reverse_append,
    List.take_append_of_le_length (by rwa [List.length_reverse])]

namespace Output

theorem ofText_ne_ofError (s : String) (e : CommandError) : ofText s ≠ ofError e := by
  intro h
  have hempty : Utf8.encode (e.message ++ "\n") = [] := (congrArg Output.stderr h).symm
  have htext := congrArg String.toList (Utf8.encode_eq_nil.1 hempty)
  simp at htext

theorem message_eq_of_ofError_eq {e e' : CommandError} (h : ofError e = ofError e') :
    e.message = e'.message := by
  have hbytes : Utf8.encode (e.message ++ "\n") = Utf8.encode (e'.message ++ "\n") :=
    congrArg Output.stderr h
  exact (String.append_left_inj "\n").1 (Utf8.encode_injective hbytes)

end Output

/-- A failure that is not one of the search for a program. -/
inductive CommandError.OfBuiltin : CommandError → Prop where
  | noSuchDirectory (dir : String) : OfBuiltin (.noSuchDirectory dir)
  | homeNotSet : OfBuiltin .homeNotSet
  | numericArgument (argument : String) : OfBuiltin (.numericArgument argument)
  | noCurrentDirectory (cause : OsError) : OfBuiltin (.noCurrentDirectory cause)

theorem CommandError.OfBuiltin.message_ne {e : CommandError} (h : e.OfBuiltin) (name : String) :
    e.message ≠ (CommandError.notFound name).message := by
  have hnotFound : lastTwo (CommandError.notFound name).message = ['d', 'n'] :=
    lastTwo_append name (by decide)
  intro heq
  rw [← heq] at hnotFound
  cases h with
  | noSuchDirectory dir =>
    have hlast : lastTwo (CommandError.noSuchDirectory dir).message = ['y', 'r'] :=
      lastTwo_append ("cd: " ++ dir) (by decide)
    exact absurd (hlast.symm.trans hnotFound) (by decide)
  | homeNotSet => exact absurd hnotFound (by decide)
  | numericArgument argument =>
    have hlast : lastTwo (CommandError.numericArgument argument).message = ['d', 'e'] :=
      lastTwo_append ("exit: " ++ argument) (by decide)
    exact absurd (hlast.symm.trans hnotFound) (by decide)
  | noCurrentDirectory cause =>
    cases cause with
    | errno e => cases e <;> exact absurd hnotFound (by decide +kernel)
    | nulInPath | nulInArgument | notUtf8 | consoleFull | flushFailed =>
      exact absurd hnotFound (by decide +kernel)

namespace Builtin

variable {w : World} {name : String} {args : List String} {e : CommandError}

theorem ofBuiltin_of_exitCode (h : exitCode args = .error e) : e.OfBuiltin := by
  rw [exitCode.eq_def] at h
  split at h
  · cases h
  · split at h
    · cases h
    · cases h
      exact .numericArgument _

theorem ofBuiltin_of_runCd (h : (runCd w args).2 = .error e) : e.OfBuiltin := by
  rw [runCd] at h
  split at h
  · cases h
    exact .homeNotSet
  · split at h
    · cases h
    · cases h
      exact .noSuchDirectory _

/-- A builtin command that is run fails for a reason of its own. -/
theorem ofBuiltin_of_run {b : Builtin} (hname : ofName? name = some b) (hexit : b ≠ .exit)
    (h : (run w name args).2 = .error e) : e.OfBuiltin := by
  rw [run, hname] at h
  cases b with
  | exit => exact absurd rfl hexit
  | pwd =>
    simp only at h
    split at h
    · cases h
    · cases h
      exact .noCurrentDirectory _
  | cd => exact ofBuiltin_of_runCd h
  | type | echo => cases h

end Builtin

namespace World

variable {w : World} {name : String} {args : List String}

/-- No builtin command reports that it has not been found. -/
theorem dispatch_builtin_ne {b : Builtin} (hname : Builtin.ofName? name = some b)
    (args : List String) : (w.dispatch name args).2 ≠ .output (.ofError (.notFound name)) := by
  have hne : ∀ result : Except CommandError String, (∀ e, result = .error e → e.OfBuiltin) →
      Outcome.output (.ofResult result) ≠ .output (.ofError (.notFound name)) := by
    intro result hresult heq
    injection heq with heq
    cases result with
    | ok text => exact Output.ofText_ne_ofError _ _ heq
    | error e => exact (hresult e rfl).message_ne name (Output.message_eq_of_ofError_eq heq)
  by_cases hb : b = .exit
  · subst hb
    rw [dispatch_exit w hname]
    cases hcode : Builtin.exitCode args with
    | ok code => simp
    | error e =>
      refine hne (.error e) fun e' he => ?_
      cases he
      exact Builtin.ofBuiltin_of_exitCode hcode
  · rw [dispatch_builtin w hname hb]
    exact hne _ fun e he => Builtin.ofBuiltin_of_run hname hb he

/-! ## What is said -/

/-- What `type` says of a name. -/
inductive Answer where
  | builtin
  | path (p : String)
  | missing
  deriving DecidableEq, Repr

namespace Answer

/-- The words in which it is said. -/
def text (name : String) : Answer → String
  | builtin => name ++ " is a shell builtin\n"
  | path p => name ++ " is " ++ p ++ "\n"
  | missing => name ++ ": not found\n"

/-- The path of an answer is that of a file in a directory. -/
def Proper : Answer → Prop
  | path p => '/' ∈ p.toList
  | _ => True

theorem builtin_ne_path {p : String} (hp : '/' ∈ p.toList) :
    text name builtin ≠ text name (path p) := by
  intro h
  have hbuiltin : " is a shell builtin\n" = " is " ++ ("a shell builtin" ++ "\n") := by decide
  simp only [text, hbuiltin, String.append_assoc, String.append_right_inj,
    String.append_left_inj] at h
  rw [← h] at hp
  exact absurd hp (by decide)

theorem path_ne_missing (p : String) : text name (path p) ≠ text name missing := by
  intro h
  simp only [text, String.append_assoc, String.append_right_inj] at h
  have hfirst := congrArg (fun s : String => s.toList.head?) h
  simp at hfirst

theorem builtin_ne_missing : text name builtin ≠ text name missing := by
  intro h
  simp only [text, String.append_right_inj] at h
  exact absurd h (by decide)

/-- No two answers are given in the same words. -/
theorem text_injective {a b : Answer} (ha : a.Proper) (hb : b.Proper)
    (h : a.text name = b.text name) : a = b := by
  cases a with
  | builtin =>
    cases b with
    | builtin => rfl
    | path p => exact absurd h (builtin_ne_path hb)
    | missing => exact absurd h builtin_ne_missing
  | path p =>
    cases b with
    | builtin => exact absurd h.symm (builtin_ne_path ha)
    | path q =>
      simp only [text, String.append_assoc, String.append_right_inj, String.append_left_inj] at h
      rw [h]
    | missing => exact absurd h (path_ne_missing p)
  | missing =>
    cases b with
    | builtin => exact absurd h.symm builtin_ne_missing
    | path q => exact absurd h.symm (path_ne_missing q)
    | missing => rfl

end Answer

/-- What `type` finds out about a name. -/
def answer (w : World) (name : String) : Answer :=
  if (Builtin.ofName? name).isSome then .builtin
  else
    match w.fullPath name with
    | some path => .path path
    | none => .missing

theorem proper_answer (w : World) (name : String) : (w.answer name).Proper := by
  rw [answer]
  split
  · trivial
  · split
    · next path hpath => exact separator_mem_of_fullPath hpath
    · trivial

theorem run_type (w : World) (name : String) :
    Builtin.run w "type" [name] = (w, .ok ((w.answer name).text name)) := by
  have htype : Builtin.ofName? "type" = some .type := by decide
  rw [Builtin.run, htype]
  simp only [Builtin.describe, answer]
  split
  · rfl
  · cases w.fullPath name <;> rfl

theorem run_type_eq_iff {a : Answer} (ha : a.Proper) :
    Builtin.run w "type" [name] = (w, .ok (a.text name)) ↔ w.answer name = a := by
  rw [run_type]
  constructor
  · intro h
    injection h with _ h
    injection h with h
    exact Answer.text_injective (w.proper_answer name) ha h
  · rintro rfl
    rfl

/-! ## Both together -/

/-- The reasons for which nothing is started. -/
inductive Refuses (w : World) (name : String) (args : List String) : OsError → Prop where
  | met {e : Errno} (h : w.Met name e) : Refuses w name args (.errno e)
  | nulInArgument (h : ∃ a ∈ args, nul ∈ a.toList) : Refuses w name args .nulInArgument

/-- What is done with a name and arguments if an answer is right: the shell runs the command itself
and does not miss it, or the system starts the file, or it starts nothing and the reason is
reported. -/
def Answer.Done (w : World) (name : String) (args : List String) : Answer → Prop
  | builtin =>
    (w.dispatch name args).1.launches = w.launches ∧
      (w.dispatch name args).2 ≠ .output (.ofError (.notFound name))
  | path p =>
    (w.dispatch name args).1.launches =
      ⟨name, args, [], .started (Utf8.encode p)⟩ :: w.launches
  | missing =>
    ∃ e, w.Refuses name args e ∧
      (w.dispatch name args).1.launches = ⟨name, args, [], .refused e⟩ :: w.launches ∧
      (w.dispatch name args).2 = .output (.ofError (refusal name e))

/-- Only one answer is right. -/
theorem Answer.Done.unique {a b : Answer} (ha : a.Done w name args) (hb : b.Done w name args) :
    a = b := by
  cases a with
  | builtin =>
    cases b with
    | builtin => rfl
    | path q => exact absurd (hb.symm.trans ha.1) (List.cons_ne_self _ _)
    | missing =>
      obtain ⟨e, _, hlaunches, _⟩ := hb
      exact absurd (hlaunches.symm.trans ha.1) (List.cons_ne_self _ _)
  | path p =>
    cases b with
    | builtin => exact absurd (ha.symm.trans hb.1) (List.cons_ne_self _ _)
    | path q =>
      have hsame := ha.symm.trans hb
      injection hsame with hlaunch
      injection hlaunch with _ _ _ hresult
      injection hresult with hbytes
      rw [Utf8.encode_injective hbytes]
    | missing =>
      obtain ⟨e, _, hlaunches, _⟩ := hb
      cases ha.symm.trans hlaunches
  | missing =>
    obtain ⟨e, _, hlaunches, _⟩ := ha
    cases b with
    | builtin => exact absurd (hlaunches.symm.trans hb.1) (List.cons_ne_self _ _)
    | path q => cases hb.symm.trans hlaunches
    | missing => rfl

/-- What the system does when it is asked for a name. -/
theorem PlainSearch.request (h : w.PlainSearch name args) :
    match w.fullPath name with
    | some path => ∃ found, (w.asked name).request name args = .ok found ∧
        found.path = Utf8.encode path
    | none => ∃ e, w.Refuses name args e ∧ (w.asked name).request name args = .error e := by
  have hfind := h.findProgram
  have hfits := (w.outputOnly_asked name).argumentsFit (name :: args)
  cases hfull : w.fullPath name with
  | some path =>
    have hmem : path ∈ w.candidates name := List.mem_of_find?_eq_some hfull
    have hrun : w.store.isRunnable w.cwd (Utf8.encode path) = true := by
      rw [fullPath_eq_find?] at hfull
      simpa using List.find?_some hfull
    rw [hfull] at hfind
    rw [request_of_args (h.starts path hmem hrun).1, hfits]
    exact hfind
  | none =>
    rw [hfull] at hfind
    by_cases hargs : ∀ a ∈ args, nul ∉ a.toList
    · obtain ⟨e, hmet, hfound⟩ := hfind
      rw [request_of_args hargs, hfits]
      exact ⟨.errno e, .met hmet, hfound⟩
    · obtain ⟨a, ha, hnul⟩ : ∃ a ∈ args, nul ∈ a.toList := by simpa using hargs
      exact ⟨.nulInArgument, .nulInArgument ⟨a, ha, hnul⟩,
        request_nul ⟨a, List.mem_cons_of_mem name ha, hnul⟩⟩

/-- A builtin command is run by the shell itself, and nothing else is. -/
theorem answer_eq_builtin_iff (w : World) (name : String) (args : List String) :
    w.answer name = .builtin ↔ Answer.builtin.Done w name args := by
  cases hname : Builtin.ofName? name with
  | some b =>
    have hanswer : w.answer name = .builtin := by rw [answer, hname]; rfl
    exact ⟨fun _ => ⟨launches_dispatch_builtin hname args, dispatch_builtin_ne hname args⟩,
      fun _ => hanswer⟩
  | none =>
    constructor
    · intro hanswer
      rw [answer, hname] at hanswer
      simp only [Option.isSome_none, Bool.false_eq_true, if_false] at hanswer
      split at hanswer <;> cases hanswer
    · intro hdone
      have hlaunches := (launches_program (w := w) hname args).symm.trans hdone.1
      exact absurd hlaunches (List.cons_ne_self _ _)

/-- What `type` says is what is done. -/
theorem PlainSearch.done_answer (h : w.PlainSearch name args) :
    (w.answer name).Done w name args := by
  cases hname : Builtin.ofName? name with
  | some b =>
    have hanswer : w.answer name = .builtin := by rw [answer, hname]; rfl
    rw [hanswer]
    exact (answer_eq_builtin_iff w name args).1 hanswer
  | none =>
    have hrequest := h.request
    have hlaunches := launches_program (w := w) hname args
    rw [answer, hname]
    simp only [Option.isSome_none, Bool.false_eq_true, if_false]
    cases hfull : w.fullPath name with
    | some path =>
      rw [hfull] at hrequest
      obtain ⟨found, hfound, hpath⟩ := hrequest
      rw [hfound, Started.toResult, hpath] at hlaunches
      exact hlaunches
    | none =>
      rw [hfull] at hrequest
      obtain ⟨e, he, hrefused⟩ := hrequest
      rw [hrefused] at hlaunches
      exact ⟨e, he, hlaunches, dispatch_refused hname hrefused⟩

/-- `type` says of a name what is done with it. It calls exactly those names builtin commands that
are run without the system and are never missed, with any arguments. It tells exactly the file that
the system starts. And it finds nothing exactly when the system starts nothing and the reason is
reported: nothing is there, or only what may not be run, or the search path names something that is
no directory, or an argument holds a NUL. -/
theorem type_tells_dispatch (h : w.PlainSearch name args) :
    (∀ args', Builtin.run w "type" [name] = (w, .ok (Answer.builtin.text name)) ↔
      Answer.builtin.Done w name args') ∧
    ∀ a : Answer, a.Proper →
      (Builtin.run w "type" [name] = (w, .ok (a.text name)) ↔ a.Done w name args) := by
  constructor
  · intro args'
    rw [run_type_eq_iff (a := .builtin) trivial]
    exact answer_eq_builtin_iff w name args'
  · intro a ha
    rw [run_type_eq_iff ha]
    constructor
    · rintro rfl
      exact h.done_answer
    · intro hdone
      exact h.done_answer.unique hdone

/-- A world in which `tool` is a directory in one place, a file that nobody may run in another one,
and a link to a program in a third one. -/
def searching (path : String) : World where
  store := ⟨#[.dir [(Utf8.encode "f", 1), (Utf8.encode "d", 2), (Utf8.encode "x", 4),
      (Utf8.encode "bin", 6)] Store.root true,
    .file (.ofBytes []) Mode.plain, .dir [(Utf8.encode "tool", 3)] Store.root true, .dir [] 2 true,
    .dir [(Utf8.encode "tool", 5)] Store.root true, .file (.ofBytes []) Mode.plain,
    .dir [(Utf8.encode "tool", 7), (Utf8.encode "real", 8)] Store.root true,
    .link (Utf8.encode "real"), .file (.program {}) Mode.executable]⟩
  env := [("PATH", Utf8.encode path)]

theorem candidates_tool : (searching "/f:/no:/d:/x:/bin").candidates "tool" =
    ["/f/tool", "/no/tool", "/d/tool", "/x/tool", "/bin/tool"] := by decide +kernel

theorem plainSearch_tool : (searching "/f:/no:/d:/x:/bin").PlainSearch "tool" ["a b"] where
  nonempty := by decide
  noSeparator := by decide
  noNul := by decide
  short := by decide
  entries := ⟨_, rfl, by decide⟩
  passes := by
    intro path hpath e he
    rw [candidates_tool] at hpath
    simp only [List.mem_cons, List.not_mem_nil, or_false] at hpath
    rcases hpath with rfl | rfl | rfl | rfl | rfl
    · cases he
      exact Or.inr rfl
    · cases he
      exact Or.inl rfl
    · cases he
    · cases he
    · cases he
  starts := by
    intro path hpath hrun
    rw [candidates_tool] at hpath
    simp only [List.mem_cons, List.not_mem_nil, or_false] at hpath
    rcases hpath with rfl | rfl | rfl | rfl | rfl
    · cases hrun
    · cases hrun
    · cases hrun
    · cases hrun
    · exact ⟨by decide, _, rfl⟩

theorem type_tells_dispatch_tool :
    (searching "/f:/no:/d:/x:/bin").PlainSearch "tool" ["a b"] ∧
      Builtin.run (searching "/f:/no:/d:/x:/bin") "type" ["tool"] =
        (searching "/f:/no:/d:/x:/bin", .ok "tool is /bin/tool\n") ∧
      ((searching "/f:/no:/d:/x:/bin").dispatch "tool" ["a b"]).1.launches =
        [⟨"tool", ["a b"], [], .started (Utf8.encode "/bin/tool")⟩] := by
  have hsaid : Builtin.run (searching "/f:/no:/d:/x:/bin") "type" ["tool"] =
      (searching "/f:/no:/d:/x:/bin", .ok ((Answer.path "/bin/tool").text "tool")) := rfl
  have hproper : (Answer.path "/bin/tool").Proper := by
    simp only [Answer.Proper]
    decide
  exact ⟨plainSearch_tool, hsaid,
    ((type_tells_dispatch plainSearch_tool).2 (.path "/bin/tool") hproper).1 hsaid⟩

/-- A search path that names something that is no directory is reported as such, although nothing
is missing otherwise. -/
theorem notDirectory_reported :
    ¬ ∀ (w : World) (name : String) (args : List String), w.PlainSearch name args →
      (Builtin.run w "type" [name] = (w, .ok (Answer.missing.text name)) ↔
        ∃ e, (e = .errno .noEntry ∨ e = .errno .accessDenied) ∧
          (w.dispatch name args).1.launches = ⟨name, args, [], .refused e⟩ :: w.launches ∧
          (w.dispatch name args).2 = .output (.ofError (refusal name e))) := by
  intro h
  have hcandidates : (searching "/f").candidates "tool" = ["/f/tool"] := by decide +kernel
  have hplain : (searching "/f").PlainSearch "tool" [] := by
    refine ⟨by decide, by decide, by decide, by decide, ⟨_, rfl, by decide⟩, ?_, ?_⟩
    · intro path hpath e he
      rw [hcandidates] at hpath
      obtain rfl := List.mem_singleton.1 hpath
      cases he
      exact Or.inr rfl
    · intro path hpath hrun
      rw [hcandidates] at hpath
      obtain rfl := List.mem_singleton.1 hpath
      cases hrun
  obtain ⟨e, he, hlaunches, _⟩ := (h (searching "/f") "tool" [] hplain).1 rfl
  have hrefused : ((searching "/f").dispatch "tool" []).1.launches =
      [⟨"tool", [], [], .refused (.errno .notDirectory)⟩] := rfl
  cases hrefused.symm.trans hlaunches
  rcases he with he | he <;> cases he

end World

end CommandShell
