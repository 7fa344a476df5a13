import CommandShell.Config
import CommandShell.Proofs.Text.Encoding

/-!
# Settings from one file

The environment selects one path. If it leads to a file with a text that gives settings, the shell
gets exactly those; otherwise it gets exactly the defaults, and of a text that gives none it
complains. No other file and no other variable is looked at, and only the console for errors
changes.

* `exists_loads`, `loadConfig_of_loads` — what reading the settings comes to.
* `Loads.of_sameSettingsFile` — it comes to the same wherever the selected file reads the same.
* `loadConfig_one_file` — both for `World.loadConfig`.
-/

namespace CommandShell

/-- A console that has room takes something of what it is given. -/
theorem Console.written_put_ne {c : Console} {b : Bytes} (hb : b ≠ []) (hroom : c.room ≠ some 0) :
    (c.put b).1.written ≠ c.written := by
  rw [Console.written_put, Ne, List.append_right_eq_self]
  unfold Console.taken
  split
  · rename_i n hn
    rw [List.take_eq_nil_iff, not_or]
    exact ⟨fun h => hroom (by rw [hn, h]), hb⟩
  · exact hb

/-- A console keeps a piece, perhaps an empty one, of all that it is given. -/
theorem Console.pieces_put (c : Console) (b : Bytes) :
    (c.put b).1.pieces = c.taken b :: c.pieces := by
  unfold Console.put
  split
  · rfl
  · split
    · rfl
    · rfl

/-! ## The selected path -/

/-- The path that an environment selects: the one that it names, even if that is empty, or else the
usual one in the home directory. -/
inductive Config.Selects (env : Environment) : Bytes → Prop where
  | named {path : Bytes} (h : env.get? "MYSHELL_CONFIG" = some path) : Selects env path
  | usual {home : Bytes} (h : env.get? "MYSHELL_CONFIG" = none)
      (hhome : env.get? "HOME" = some home) :
      Selects env (Path.join home (Utf8.encode ".config/myshell/config.toml"))

theorem Config.path?_eq_some_iff {env : Environment} {path : Bytes} :
    Config.path? env = some path ↔ Config.Selects env path := by
  unfold Config.path?
  constructor
  · intro h
    split at h
    · rename_i hnamed
      cases h
      exact .named hnamed
    · rename_i hnone
      obtain ⟨home, hhome, rfl⟩ := Option.map_eq_some_iff.1 h
      exact .usual hnone hhome
  · intro h
    cases h with
    | named h => rw [h]
    | usual h hhome =>
      rw [h, hhome]
      rfl

theorem Config.Selects.unique {env : Environment} {path path' : Bytes}
    (h : Config.Selects env path) (h' : Config.Selects env path') : path = path' := by
  rw [← Config.path?_eq_some_iff] at h h'
  rw [h] at h'
  exact Option.some.inj h'

namespace World

variable {w v : World} {path : Bytes} {text : String} {m : Option String} {c : Config}

/-- The selected path leads to a file that can be read as a text. -/
structure HasSettings (w : World) (path : Bytes) (text : String) : Prop where
  selected : Config.Selects w.env path
  holds : w.store.readText w.cwd path = .ok text

theorem HasSettings.unique {path' : Bytes} {text' : String} (h : w.HasSettings path text)
    (h' : w.HasSettings path' text') : path = path' ∧ text = text' := by
  have hpath := h.selected.unique h'.selected
  subst hpath
  have htext := h.holds.symm.trans h'.holds
  exact ⟨rfl, Except.ok.inj htext⟩

/-- The text of the selected file gives no settings. -/
def RejectsSettings (w : World) : Prop :=
  ∃ path text e, w.HasSettings path text ∧ Config.ofText text = .error e

/-- Two worlds select the same path, and it reads the same in both. Only where the path is not named
does the home directory matter. -/
structure SameSettingsFile (w v : World) : Prop where
  named : w.env.get? "MYSHELL_CONFIG" = v.env.get? "MYSHELL_CONFIG"
  home : w.env.get? "MYSHELL_CONFIG" = none → w.env.get? "HOME" = v.env.get? "HOME"
  reads : ∀ path, Config.Selects w.env path → ∀ text,
    w.store.readText w.cwd path = .ok text ↔ v.store.readText v.cwd path = .ok text

theorem SameSettingsFile.selects_iff (h : w.SameSettingsFile v) :
    Config.Selects w.env path ↔ Config.Selects v.env path := by
  rw [← Config.path?_eq_some_iff, ← Config.path?_eq_some_iff, Config.path?, Config.path?, ← h.named]
  -- The home directory is asked for only where no path is named.
  split
  · rfl
  · rename_i hnone
    rw [h.home hnone]

theorem SameSettingsFile.hasSettings_iff (h : w.SameSettingsFile v) :
    w.HasSettings path text ↔ v.HasSettings path text := by
  constructor
  · rintro ⟨hselected, hholds⟩
    exact ⟨h.selects_iff.1 hselected, (h.reads path hselected text).1 hholds⟩
  · rintro ⟨hselected, hholds⟩
    have hselected' := h.selects_iff.2 hselected
    exact ⟨hselected', (h.reads path hselected' text).2 hholds⟩

/-! ## Reading the settings -/

/-- A complaint always leaves a trace. -/
theorem complain_ne (w : World) (t : String) : w.complain t ≠ w := by
  intro heq
  have hpieces : (w.stderr.put (Utf8.encode t)).1.pieces = w.stderr.pieces :=
    congrArg (fun w : World => w.stderr.pieces) heq
  rw [Console.pieces_put] at hpieces
  exact List.cons_ne_self _ _ hpieces

/-- What reading the settings comes to: a complaint, if there is cause for one, and settings. -/
inductive Loads (w : World) : Option String → Config → Prop where
  | unread (h : ∀ path text, ¬ w.HasSettings path text) : Loads w none {}
  | accepted {path : Bytes} {text : String} {c : Config} (h : w.HasSettings path text)
      (hc : Config.ofText text = .ok c) : Loads w none c
  | rejected {path : Bytes} {text : String} {e : ConfigError} (h : w.HasSettings path text)
      (he : Config.ofText text = .error e) :
      Loads w (some ("myshell: config parse error in " ++ Utf8.decodeLossy path
        ++ ": TOML parse error: " ++ e.message ++ "\n")) {}

theorem exists_loads (w : World) : ∃ m c, w.Loads m c := by
  by_cases hfile : ∃ path text, w.HasSettings path text
  · obtain ⟨path, text, h⟩ := hfile
    cases hresult : Config.ofText text with
    | ok c => exact ⟨_, _, .accepted h hresult⟩
    | error e => exact ⟨_, _, .rejected h hresult⟩
  · exact ⟨_, _, .unread fun path text h => hfile ⟨path, text, h⟩⟩

theorem loadConfig_of_loads (h : w.Loads m c) : w.loadConfig = (m.elim w w.complain, c) := by
  unfold loadConfig
  cases h with
  | unread h =>
    split
    · rfl
    · rename_i path hpath
      split
      · rfl
      · -- A text that is read here is the one that is not there.
        rename_i text htext
        exact absurd ⟨Config.path?_eq_some_iff.1 hpath, htext⟩ (h path text)
  | accepted h hc =>
    simp only [Config.path?_eq_some_iff.2 h.selected, h.holds, hc]
    rfl
  | rejected h he =>
    simp only [Config.path?_eq_some_iff.2 h.selected, h.holds, he]
    rfl

/-- What the settings come to depends on the selected file alone. -/
theorem Loads.of_sameSettingsFile (h : w.Loads m c) (hsame : w.SameSettingsFile v) :
    v.Loads m c := by
  cases h with
  | unread h => exact .unread fun path text hv => h path text (hsame.hasSettings_iff.2 hv)
  | accepted h hc => exact .accepted (hsame.hasSettings_iff.1 h) hc
  | rejected h he => exact .rejected (hsame.hasSettings_iff.1 h) he

/-- The settings are all from the file or all defaults. -/
theorem Loads.settings (h : w.Loads m c) :
    (∃ path text, w.HasSettings path text ∧ Config.ofText text = .ok c) ∨
      (∀ path text, w.HasSettings path text → ∃ e, Config.ofText text = .error e) ∧ c = {} := by
  cases h with
  | unread h => exact Or.inr ⟨fun path text hw => absurd hw (h path text), rfl⟩
  | accepted h hc => exact Or.inl ⟨_, _, h, hc⟩
  | rejected h he =>
    refine Or.inr ⟨?_, rfl⟩
    intro path text hw
    obtain ⟨_, rfl⟩ := h.unique hw
    exact ⟨_, he⟩

/-- There is a complaint exactly if a text was read and rejected. -/
theorem Loads.complaint_iff (h : w.Loads m c) : m ≠ none ↔ w.RejectsSettings := by
  cases h with
  | unread h =>
    have hnot : ¬ w.RejectsSettings := fun ⟨path, text, _, hw, _⟩ => h path text hw
    simp [hnot]
  | accepted h hc =>
    have hnot : ¬ w.RejectsSettings := by
      rintro ⟨path, text, e, hw, he⟩
      obtain ⟨_, rfl⟩ := h.unique hw
      rw [hc] at he
      cases he
    simp [hnot]
  | rejected h he =>
    have hrejected : w.RejectsSettings := ⟨_, _, _, h, he⟩
    simp [hrejected]

/-- No complaint is empty. -/
theorem Loads.complaint_ne {t : String} (h : w.Loads (some t) c) : Utf8.encode t ≠ [] := by
  cases h with
  | rejected h he =>
    intro hnil
    have hlength := congrArg String.length (Utf8.encode_eq_nil.1 hnil)
    simp [String.length_append] at hlength

/-- The settings are exactly those of the selected file or exactly the defaults. A complaint is
written exactly if the selected file was read as a text and rejected, and no other part of the world
changes. Where the selected path reads the same, all of this is the same, whatever else differs. -/
theorem loadConfig_one_file (w : World) :
    ((∃ path text, w.HasSettings path text ∧ Config.ofText text = .ok w.loadConfig.2) ∨
      (∀ path text, w.HasSettings path text → ∃ e, Config.ofText text = .error e) ∧
        w.loadConfig.2 = {}) ∧
    (w.loadConfig.1 ≠ w ↔ w.RejectsSettings) ∧
    (w.stderr.room ≠ some 0 →
      (w.loadConfig.1.stderr.written ≠ w.stderr.written ↔ w.RejectsSettings)) ∧
    w.loadConfig.1 = { w with stderr := w.loadConfig.1.stderr } ∧
    ∀ v, w.SameSettingsFile v →
      v.loadConfig.2 = w.loadConfig.2 ∧
      ∃ m : Option String, w.loadConfig.1 = m.elim w w.complain ∧
        v.loadConfig.1 = m.elim v v.complain := by
  obtain ⟨m, c, h⟩ := w.exists_loads
  rw [loadConfig_of_loads h]
  refine ⟨h.settings, ?_, ?_, ?_, ?_⟩
  · rw [← h.complaint_iff]
    cases m with
    | none => simp
    | some t => simp [complain_ne w t]
  · intro hroom
    rw [← h.complaint_iff]
    cases m with
    | none => simp
    | some t =>
      have hne : (w.complain t).stderr.written ≠ w.stderr.written :=
        Console.written_put_ne h.complaint_ne hroom
      simp [hne]
  · cases m with
    | none => rfl
    | some t => rfl
  · intro v hsame
    rw [loadConfig_of_loads (h.of_sameSettingsFile hsame)]
    exact ⟨rfl, m, rfl, rfl⟩

/-- A world in which the named file has an unknown key. -/
def misspelt : World where
  store := ⟨#[.dir [(Utf8.encode "rc", 1)] Store.root true,
    .file (.ofBytes (Utf8.encode "promt = 1\n")) Mode.plain]⟩
  env := [("MYSHELL_CONFIG", Utf8.encode "rc")]

/-- The same file is named, but there is a good one in the home directory. -/
def misspeltAtHome : World where
  store := ⟨#[.dir [(Utf8.encode ".config", 2), (Utf8.encode "rc", 1)] Store.root true,
    .file (.ofBytes (Utf8.encode "promt = 1\n")) Mode.plain,
    .dir [(Utf8.encode "myshell", 3)] Store.root true,
    .dir [(Utf8.encode "config.toml", 4)] 2 true,
    .file (.ofBytes (Utf8.encode "prompt = \"> \"\n")) Mode.plain]⟩
  env := [("HOME", Utf8.encode "/"), ("MYSHELL_CONFIG", Utf8.encode "rc")]

theorem readText_eq_ok {s : Store} {cwd : NodeId}
    (h : (s.readText cwd path).toOption = some text) : s.readText cwd path = .ok text := by
  cases hread : s.readText cwd path with
  | error e =>
    rw [hread] at h
    cases h
  | ok t =>
    rw [hread] at h
    cases h
    rfl

theorem loadConfig_one_file_misspelt :
    misspelt.stderr.room ≠ some 0 ∧ misspelt.SameSettingsFile misspeltAtHome ∧
      misspelt.loadConfig.1.stderr.written ≠ misspelt.stderr.written ∧
      misspeltAtHome.loadConfig.2 = {} := by
  have hnamed : misspelt.env.get? "MYSHELL_CONFIG" = some (Utf8.encode "rc") := by
    decide +kernel
  have hselected : Config.Selects misspelt.env (Utf8.encode "rc") := .named hnamed
  have hreads : misspelt.store.readText misspelt.cwd (Utf8.encode "rc") = .ok "promt = 1\n" :=
    readText_eq_ok (by decide +kernel)
  have hreads' : misspeltAtHome.store.readText misspeltAtHome.cwd (Utf8.encode "rc") =
      .ok "promt = 1\n" :=
    readText_eq_ok (by decide +kernel)
  have hroom : misspelt.stderr.room ≠ some 0 := by decide
  have hsame : misspelt.SameSettingsFile misspeltAtHome := by
    refine ⟨by decide +kernel, ?_, ?_⟩
    · intro hnone
      rw [hnamed] at hnone
      cases hnone
    · intro path hpath text
      rw [hpath.unique hselected, hreads, hreads']
  have hrefused : (Config.ofText "promt = 1\n").toOption = none := by decide +kernel
  have hrejected : misspelt.RejectsSettings := by
    cases hresult : Config.ofText "promt = 1\n" with
    | ok c =>
      rw [hresult] at hrefused
      cases hrefused
    | error e => exact ⟨_, _, e, ⟨hselected, hreads⟩, hresult⟩
  obtain ⟨hsettings, _, hwritten, _, hother⟩ := loadConfig_one_file misspelt
  refine ⟨hroom, hsame, (hwritten hroom).2 hrejected, ?_⟩
  rw [(hother misspeltAtHome hsame).1]
  rcases hsettings with ⟨path, text, h, hok⟩ | ⟨_, hdefault⟩
  · obtain ⟨_, rfl⟩ := h.unique ⟨hselected, hreads⟩
    rw [hok] at hrefused
    cases hrefused
  · exact hdefault

end World

end CommandShell
