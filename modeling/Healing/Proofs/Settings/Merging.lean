/-
  Settings from several files.

  The files are merged one after the other, and every value has its own rule: a text that is not
  empty replaces an earlier one, certificates and rules are added, and a duration is read as soon as
  it is given, though a later one may replace it.  What comes of all files together can be said of
  each value on its own: it is what the last file that gives one says, or what all files say in a
  row.

  1. **Order** - `loadOrder`, the files behind some paths; settings are folded over them
     (`Settings.ofFiles_eq`).
  2. **Values** - `SettingsFile.text?` and `SettingsFile.value?`, what a file gives; `lastOf`, the
     last value that is given.
  3. **Faults** - `Faulty`, what can be wrong with a file, and the error it causes.
  4. **Merging** - `Settings.merge_cases`: what comes of what a file says.
  5. **Several files** - `Merged`, the settings from several files; one more file
     (`mergeFile_cases`) and all of them (`mergeFiles_cases`).
  6. **Settings** - `Settings.merged_in_order`.
-/
import Healing.Proofs.FileSystem
import Healing.Settings.Merging
import Mathlib.Data.List.Forall2

namespace Healing

/-! ## Order -/

/-- The files that a path leads to: those of a folder that can be listed, or else the one at the
    path. -/
def filesAt (fs : FileSystem) (path : String) : List String :=
  match fs.find path with
  | .ok (.folder faults entries) =>
    match faults.listing with
    | some _ => [path]
    | none => fs.yamlFiles path entries
  | _ => [path]

/-- The files behind some paths, in the order in which they are merged. -/
def loadOrder (fs : FileSystem) (paths : List String) : List String := paths.flatMap (filesAt fs)

/-- Merge some files. -/
def mergeFiles (fs : FileSystem) (s : Settings) (files : List String) :
    Except SettingsError Settings :=
  files.foldlM (mergeFile fs) s

/-- What is at a path is merged file by file. -/
theorem mergePath_eq (fs : FileSystem) (s : Settings) (path : String) :
    mergePath fs s path = mergeFiles fs s (filesAt fs path) := by
  have hfile : mergeFile fs s path = mergeFiles fs s [path] := by
    unfold mergeFiles
    rw [List.foldlM_cons]
    cases mergeFile fs s path <;> rfl
  -- what cannot be found or listed cannot be read either
  have hfault : ∀ fault, fs.readText path = .error fault →
      mergeFiles fs s [path] = .error (.unreadable path fault) := fun fault hread => by
    rw [← hfile]
    simp only [mergeFile, FileSystem.need, hread]
    rfl
  unfold mergePath filesAt
  cases hfind : fs.find path with
  | error fault =>
    refine (hfault fault ?_).symm
    rw [FileSystem.readText, hfind]
    rfl
  | ok node =>
    cases node with
    | folder faults entries =>
      dsimp only
      cases hlisting : faults.listing with
      | none => rfl
      | some fault =>
        refine (hfault fault ?_).symm
        rw [FileSystem.readText_of_find hfind, FileNode.text, FileNode.octets, hlisting]
        rfl
    | _ => exact hfile

/-- **Settings are folded over the files.** -/
theorem Settings.ofFiles_eq (fs : FileSystem) (path : String) (paths : List String) :
    Settings.ofFiles fs (path :: paths) = mergeFiles fs {} (loadOrder fs (path :: paths)) := by
  have hfold : ∀ (paths : List String) (s : Settings),
      paths.foldlM (mergePath fs) s = mergeFiles fs s (loadOrder fs paths) := by
    intro paths
    induction paths with
    | nil => exact fun _ => rfl
    | cons path r ih =>
      intro s
      have horder : loadOrder fs (path :: r) = filesAt fs path ++ loadOrder fs r :=
        List.flatMap_cons
      unfold mergeFiles
      rw [List.foldlM_cons, horder, List.foldlM_append, mergePath_eq]
      exact congrArg _ (funext ih)
  exact hfold (path :: paths) {}

/-! ## Values -/

namespace SettingsFile

variable (f : SettingsFile)

/-- A value that a file gives about AWX. -/
def value? {α : Type} (field : AwxSection → Option α) : Option α := f.awx.bind field

/-- A text that a file gives about AWX, unless it is empty. -/
def text? (field : AwxSection → Option String) : Option String :=
  f.awx.bind fun section_ => given (field section_)

/-- How often the status of jobs is to be asked for. -/
def interval? : Option String := f.text? (·.jobStatusInterval)

/-- How long an action is to be remembered. -/
def throttling? : Option String := given f.throttling

/-- The certificates that a file gives, in place first. -/
def certTexts (fs : FileSystem) : List String :=
  (f.text? (·.caCerts)).toList
    ++ ((f.text? (·.caFile)).bind fun path => (fs.readText path).toOption).toList

end SettingsFile

/-- The last value that is given by any file. -/
def lastOf {α : Type} (field : SettingsFile → Option α) (contents : List SettingsFile) : Option α :=
  (contents.filterMap field).getLast?

/-- What one more file gives replaces what has been given. -/
theorem lastOf_concat {α : Type} (field : SettingsFile → Option α) (contents : List SettingsFile)
    (f : SettingsFile) : lastOf field (contents ++ [f]) = (field f).or (lastOf field contents) := by
  unfold lastOf
  rw [List.filterMap_append, List.getLast?_append]
  cases h : field f with
  | none => simp [h]
  | some v => simp [h]

/-- A duration is read from the last text that is given, as long as all texts can be read. -/
theorem elim_lastOf_concat {field : SettingsFile → Option String} {contents : List SettingsFile}
    {f : SettingsFile} {read : String → Option Duration} {default before after : Duration}
    (h : (lastOf field contents).elim (some default) read = some before)
    (hf : (field f).elim (some before) read = some after) :
    (lastOf field (contents ++ [f])).elim (some default) read = some after := by
  rw [lastOf_concat]
  cases hgives : field f with
  | none =>
    rw [hgives] at hf
    rw [Option.none_or, h]
    exact hf
  | some text =>
    rw [hgives] at hf
    exact hf

/-- What a file says. -/
def Says (fs : FileSystem) (path : String) (f : SettingsFile) : Prop :=
  ∃ text, fs.readText path = .ok text ∧ SettingsFile.ofText path text = .ok f

/-! ## Faults -/

/-- What can be wrong with the values of a file. -/
inductive SettingsFile.Fault (fs : FileSystem) (f : SettingsFile) : SettingsError → Prop
  /-- The file with certificates cannot be read. -/
  | caFile {path : String} {fault : FileFault} (names : f.text? (·.caFile) = some path)
    (unreadable : fs.readText path = .error fault) : Fault fs f (.unreadable path fault)
  | interval {text : String} (gives : f.interval? = some text)
    (invalid : Duration.read? text = none) : Fault fs f (.duration (.invalid text))
  | zero {text : String} (gives : f.interval? = some text)
    (zero : Duration.read? text = some 0) :
    Fault fs f (.duration (.zero (String.ofList (Text.trim text.toList))))
  | throttling {text : String} (gives : f.throttling? = some text)
    (invalid : Duration.read? text = none) : Fault fs f (.duration (.invalid text))

/-- What can be wrong with a file. -/
inductive Faulty (fs : FileSystem) (path : String) : SettingsError → Prop
  | unreadable {fault : FileFault} (unreadable : fs.readText path = .error fault) :
    Faulty fs path (.unreadable path fault)
  | malformed {text : String} {detail : Option String} (readable : fs.readText path = .ok text)
    (malformed : SettingsFile.ofText path text = .error (.malformed path detail)) :
    Faulty fs path (.malformed path detail)
  | values {f : SettingsFile} {e : SettingsError} (content : Says fs path f)
    (fault : f.Fault fs e) : Faulty fs path e

/-- A text that cannot be read as a file is malformed. -/
theorem SettingsFile.malformed_of_ofText {path text : String} {e : SettingsError}
    (h : SettingsFile.ofText path text = .error e) : ∃ detail, e = .malformed path detail := by
  unfold SettingsFile.ofText at h
  split at h
  · cases h
  · cases hdecode : Yaml.decode SettingsFile.read text with
    | ok f =>
      rw [hdecode] at h
      cases h
    | error cause =>
      rw [hdecode] at h
      obtain rfl := Except.error.inj h
      cases cause with
      | wrongData detail => exact ⟨detail, rfl⟩
      | malformed => exact ⟨none, rfl⟩
      | endOfText => exact ⟨none, rfl⟩

/-! ## Merging -/

section Values

variable (fs : FileSystem) (s : Settings) (f : SettingsFile)

/-- The certificates with those that a file gives. -/
def SettingsFile.mergeCerts (certs : Option String) : Except SettingsError (Option String) :=
  match f.awx with
  | some section_ => section_.addCerts fs certs
  | none => .ok certs

/-- The settings after one more file, when its certificates and durations have been read. -/
def Settings.extended (certs : Option String) (interval throttling : Duration) : Settings where
  awx := {
    address := (f.text? (·.address)).getD s.awx.address
    proxy := (f.text? (·.proxy)).or s.awx.proxy
    username := (f.text? (·.username)).getD s.awx.username
    password := (f.text? (·.password)).getD s.awx.password
    insecure := (f.value? (·.insecure)).getD s.awx.insecure
    caCerts := certs
    project := (f.text? (·.project)).getD s.awx.project
    jobStatusInterval := interval
    credentialsRef := (f.value? (·.credentialsRef)).or s.awx.credentialsRef
    tlsRefs := s.awx.tlsRefs ++ (f.value? (·.tlsRef)).toList }
  throttling
  rules := s.rules ++ f.rules

/-- A file is merged by reading its certificates and its durations. -/
theorem Settings.merge_eq : s.merge fs f = (do
    let certs ← f.mergeCerts fs s.awx.caCerts
    let interval ← f.interval?.elim (.ok s.awx.jobStatusInterval) fun text =>
      settle (Duration.readInterval text)
    let throttling ← f.throttling?.elim (.ok s.throttling) fun text => settle (Duration.read text)
    .ok (s.extended f certs interval throttling)) := by
  obtain ⟨awx, throttling, rules⟩ := f
  cases awx with
  | none =>
    -- without the section all of it stays as it was
    have hsame : ∀ duration, s.extended ⟨none, throttling, rules⟩ s.awx.caCerts
        s.awx.jobStatusInterval duration = ⟨s.awx, duration, s.rules ++ rules⟩ := by
      intro duration
      unfold extended
      simp [SettingsFile.text?, SettingsFile.value?]
    unfold Settings.merge SettingsFile.throttling?
    cases given throttling with
    | none => exact congrArg Except.ok (hsame _).symm
    | some text =>
      show settle (Duration.read text) >>= _ = settle (Duration.read text) >>= _
      cases settle (Duration.read text) with
      | error e => rfl
      | ok duration => exact congrArg Except.ok (hsame duration).symm
  | some section_ =>
    unfold Settings.merge AwxSettings.merge SettingsFile.mergeCerts SettingsFile.interval?
      SettingsFile.text? SettingsFile.throttling?
    dsimp only [Option.bind_some]
    cases section_.addCerts fs s.awx.caCerts with
    | error e => rfl
    | ok certs =>
      cases given section_.jobStatusInterval with
      | none => cases given throttling <;> rfl
      | some text =>
        dsimp only [Option.elim_some]
        cases settle (Duration.readInterval text) with
        | error e => rfl
        | ok interval => cases given throttling <;> rfl

/-- Certificates in place come first, then those in a file. -/
theorem SettingsFile.mergeCerts_eq (certs : Option String) :
    let inPlace := (f.text? (·.caCerts)).toList.foldl appendCerts certs
    f.mergeCerts fs certs = (f.text? (·.caFile)).elim (.ok inPlace) (fun path => do
      let text ← fs.need path
      .ok (appendCerts inPlace text)) := by
  obtain ⟨_ | section_, throttling, rules⟩ := f
  · rfl
  · simp only [mergeCerts, AwxSection.addCerts, text?, Option.bind_some]
    cases given section_.caCerts <;> cases given section_.caFile <;> rfl

/-- What comes of the certificates of a file. -/
theorem SettingsFile.mergeCerts_cases (certs : Option String) :
    ((∀ path fault, f.text? (·.caFile) = some path → fs.readText path ≠ .error fault) ∧
      f.mergeCerts fs certs = .ok ((f.certTexts fs).foldl appendCerts certs)) ∨
    ∃ e, f.Fault fs e ∧ f.mergeCerts fs certs = .error e := by
  rw [mergeCerts_eq]
  unfold certTexts
  rw [List.foldl_append]
  cases hfile : f.text? (·.caFile) with
  | none => exact Or.inl ⟨nofun, rfl⟩
  | some path =>
    cases hread : fs.readText path with
    | error fault =>
      refine Or.inr ⟨_, .caFile hfile hread, ?_⟩
      simp only [Option.elim_some, FileSystem.need, hread]
      rfl
    | ok text =>
      refine Or.inl ⟨?_, ?_⟩
      · rintro other fault ⟨⟩ herror
        rw [hread] at herror
        cases herror
      · simp only [Option.elim_some, Option.bind_some, FileSystem.need, hread]
        rfl

/-- What comes of reading an interval. -/
theorem Duration.readInterval_cases (text : String) :
    (∃ d, d ≠ 0 ∧ read? text = some d ∧ readInterval text = .ok d) ∨
    (read? text = some 0 ∧
      readInterval text = .error (.zero (String.ofList (Text.trim text.toList)))) ∨
    (read? text = none ∧ readInterval text = .error (.invalid text)) := by
  unfold readInterval read
  cases hread : read? text with
  | none => exact Or.inr (Or.inr ⟨rfl, rfl⟩)
  | some d =>
    by_cases hzero : d = 0
    · subst hzero
      exact Or.inr (Or.inl ⟨rfl, rfl⟩)
    · exact Or.inl ⟨d, hzero, rfl, if_neg hzero⟩

/-- What comes of the polling interval of a file. -/
theorem SettingsFile.interval_cases (before : Duration) :
    (∃ d, f.interval?.elim (some before) Duration.read? = some d ∧
      (f.interval? = none ∨ d ≠ 0) ∧
      f.interval?.elim (.ok before) (fun text => settle (Duration.readInterval text))
        = .ok d) ∨
    ∃ e, f.Fault fs e ∧
      f.interval?.elim (.ok before) (fun text => settle (Duration.readInterval text))
        = .error e := by
  cases hgives : f.interval? with
  | none => exact Or.inl ⟨before, rfl, Or.inl rfl, rfl⟩
  | some text =>
    rcases Duration.readInterval_cases text with ⟨d, hpos, hread, hinterval⟩ |
      ⟨hread, hinterval⟩ | ⟨hread, hinterval⟩
    · refine Or.inl ⟨d, hread, Or.inr hpos, ?_⟩
      rw [Option.elim_some, hinterval]
      rfl
    · refine Or.inr ⟨_, .zero hgives hread, ?_⟩
      rw [Option.elim_some, hinterval]
      rfl
    · refine Or.inr ⟨_, .interval hgives hread, ?_⟩
      rw [Option.elim_some, hinterval]
      rfl

/-- What comes of the throttle of a file. -/
theorem SettingsFile.throttling_cases (before : Duration) :
    (∃ d, f.throttling?.elim (some before) Duration.read? = some d ∧
      f.throttling?.elim (.ok before) (fun text => settle (Duration.read text)) = .ok d) ∨
    ∃ e, f.Fault fs e ∧
      f.throttling?.elim (.ok before) (fun text => settle (Duration.read text)) = .error e := by
  cases hgives : f.throttling? with
  | none => exact Or.inl ⟨before, rfl, rfl⟩
  | some text =>
    cases hread : Duration.read? text with
    | none =>
      refine Or.inr ⟨_, .throttling hgives hread, ?_⟩
      simp only [Option.elim_some, Duration.read, hread]
      rfl
    | some d =>
      refine Or.inl ⟨d, hread, ?_⟩
      simp only [Option.elim_some, Duration.read, hread]
      rfl

/-- **What comes of one more file**: the settings are extended, or the file is at fault. -/
theorem Settings.merge_cases :
    ((∀ e, ¬ f.Fault fs e) ∧ ∃ interval throttling,
      f.interval?.elim (some s.awx.jobStatusInterval) Duration.read? = some interval ∧
      (f.interval? = none ∨ interval ≠ 0) ∧
      f.throttling?.elim (some s.throttling) Duration.read? = some throttling ∧
      s.merge fs f = .ok (s.extended f ((f.certTexts fs).foldl appendCerts s.awx.caCerts)
        interval throttling)) ∨
    ∃ e, f.Fault fs e ∧ s.merge fs f = .error e := by
  rw [merge_eq]
  rcases f.mergeCerts_cases fs s.awx.caCerts with ⟨readable, hcerts⟩ | ⟨e, hfault, hcerts⟩
  case inr =>
    rw [hcerts]
    exact Or.inr ⟨e, hfault, rfl⟩
  rcases f.interval_cases fs s.awx.jobStatusInterval with ⟨interval, hread, hpos, hinterval⟩ |
    ⟨e, hfault, hinterval⟩
  case inr =>
    rw [hcerts, hinterval]
    exact Or.inr ⟨e, hfault, rfl⟩
  rcases f.throttling_cases fs s.throttling with ⟨throttling, hread', hthrottling⟩ |
    ⟨e, hfault, hthrottling⟩
  case inr =>
    rw [hcerts, hinterval, hthrottling]
    exact Or.inr ⟨e, hfault, rfl⟩
  refine Or.inl ⟨?_, interval, throttling, hread, hpos, hread', ?_⟩
  · intro e hfault
    cases hfault with
    | caFile names unreadable => exact readable _ _ names unreadable
    | interval gives invalid =>
      rw [gives, Option.elim_some, invalid] at hread
      cases hread
    | zero gives zero =>
      rw [gives, Option.elim_some, zero] at hread
      rw [gives] at hpos
      rcases hpos with hnone | hpos
      · cases hnone
      · exact hpos (Option.some.inj hread).symm
    | throttling gives invalid =>
      rw [gives, Option.elim_some, invalid] at hread'
      cases hread'
  · rw [hcerts, hinterval, hthrottling]
    rfl

end Values

/-! ## Several files -/

/-- **The settings from several files.** -/
structure Merged (fs : FileSystem) (contents : List SettingsFile) (s : Settings) : Prop where
  address : s.awx.address = (lastOf (·.text? (·.address)) contents).getD ""
  proxy : s.awx.proxy = lastOf (·.text? (·.proxy)) contents
  username : s.awx.username = (lastOf (·.text? (·.username)) contents).getD ""
  password : s.awx.password = (lastOf (·.text? (·.password)) contents).getD ""
  project : s.awx.project = (lastOf (·.text? (·.project)) contents).getD ""
  insecure : s.awx.insecure = (lastOf (·.value? (·.insecure)) contents).getD false
  credentialsRef : s.awx.credentialsRef = lastOf (·.value? (·.credentialsRef)) contents
  /-- All references to certificates, in the order of the files. -/
  tlsRefs : s.awx.tlsRefs = contents.filterMap (·.value? (·.tlsRef))
  /-- All certificates, in the order of the files. -/
  caCerts : s.awx.caCerts = (contents.flatMap (·.certTexts fs)).foldl appendCerts none
  /-- Five minutes, if no interval is given. -/
  jobStatusInterval : (lastOf SettingsFile.interval? contents).elim
    (some 300_000_000_000) Duration.read? = some s.awx.jobStatusInterval
  positive : s.awx.jobStatusInterval ≠ 0
  /-- An hour, if no throttle is given. -/
  throttling : (lastOf SettingsFile.throttling? contents).elim
    (some 3_600_000_000_000) Duration.read? = some s.throttling
  /-- All rules, in the order of the files. -/
  rules : s.rules = contents.flatMap (·.rules)

/-- Nothing has been merged yet. -/
theorem Merged.start (fs : FileSystem) : Merged fs [] {} := by
  constructor <;> first | rfl | decide

/-- **One more file** adds what it gives. -/
theorem Merged.concat {fs : FileSystem} {contents : List SettingsFile} {s : Settings}
    (h : Merged fs contents s) {f : SettingsFile} {interval throttling : Duration}
    (hinterval : f.interval?.elim (some s.awx.jobStatusInterval) Duration.read?
      = some interval)
    (positive : f.interval? = none ∨ interval ≠ 0)
    (hthrottling : f.throttling?.elim (some s.throttling) Duration.read? = some throttling) :
    Merged fs (contents ++ [f]) (s.extended f ((f.certTexts fs).foldl appendCerts s.awx.caCerts)
      interval throttling) where
  address := by
    rw [lastOf_concat, Option.getD_or, ← h.address]
    rfl
  proxy := by
    rw [lastOf_concat, ← h.proxy]
    rfl
  username := by
    rw [lastOf_concat, Option.getD_or, ← h.username]
    rfl
  password := by
    rw [lastOf_concat, Option.getD_or, ← h.password]
    rfl
  project := by
    rw [lastOf_concat, Option.getD_or, ← h.project]
    rfl
  insecure := by
    rw [lastOf_concat, Option.getD_or, ← h.insecure]
    rfl
  credentialsRef := by
    rw [lastOf_concat, ← h.credentialsRef]
    rfl
  tlsRefs := by
    rw [List.filterMap_append, ← h.tlsRefs]
    cases hgives : f.value? (·.tlsRef) <;> simp [Settings.extended, hgives]
  caCerts := by
    rw [List.flatMap_append, List.foldl_append, ← h.caCerts, List.flatMap_singleton]
    rfl
  jobStatusInterval := elim_lastOf_concat h.jobStatusInterval hinterval
  positive := by
    rcases positive with hnone | hpos
    · rw [hnone] at hinterval
      obtain rfl := Option.some.inj hinterval
      exact h.positive
    · exact hpos
  throttling := elim_lastOf_concat h.throttling hthrottling
  rules := by
    rw [List.flatMap_append, ← h.rules, List.flatMap_singleton]
    rfl

/-- A file that can be read is merged as its text is read. -/
theorem mergeFile_eq {fs : FileSystem} (s : Settings) {path text : String}
    (readable : fs.readText path = .ok text) :
    mergeFile fs s path = SettingsFile.ofText path text >>= s.merge fs := by
  simp only [mergeFile, FileSystem.need, readable]
  rfl

/-- What a file says is merged. -/
theorem mergeFile_of_said {fs : FileSystem} (s : Settings) {path : String} {f : SettingsFile}
    (h : Says fs path f) : mergeFile fs s path = s.merge fs f := by
  obtain ⟨text, hread, hcontent⟩ := h
  rw [mergeFile_eq s hread, hcontent]
  rfl

/-- A file that is at fault though it can be read has values that are at fault. -/
theorem Says.fault {fs : FileSystem} {path : String} {f : SettingsFile} (h : Says fs path f)
    {e : SettingsError} (hfaulty : Faulty fs path e) : f.Fault fs e := by
  obtain ⟨text, hread, hcontent⟩ := h
  cases hfaulty with
  | unreadable unreadable =>
    rw [hread] at unreadable
    cases unreadable
  | malformed readable malformed =>
    rw [hread] at readable
    cases readable
    rw [hcontent] at malformed
    cases malformed
  | values content fault =>
    obtain ⟨text', hread', hcontent'⟩ := content
    rw [hread] at hread'
    cases hread'
    rw [hcontent] at hcontent'
    cases hcontent'
    exact fault

/-- **What comes of a file**: it is merged, or it is at fault. -/
theorem mergeFile_cases {fs : FileSystem} {contents : List SettingsFile} {s : Settings}
    (h : Merged fs contents s) (path : String) :
    ((∀ e, ¬ Faulty fs path e) ∧ ∃ f after, Says fs path f ∧ Merged fs (contents ++ [f]) after ∧
      mergeFile fs s path = .ok after) ∨
    ∃ e, Faulty fs path e ∧ mergeFile fs s path = .error e := by
  cases hread : fs.readText path with
  | error fault =>
    refine Or.inr ⟨_, .unreadable hread, ?_⟩
    simp only [mergeFile, FileSystem.need, hread]
    rfl
  | ok text =>
    cases hcontent : SettingsFile.ofText path text with
    | error e =>
      obtain ⟨detail, rfl⟩ := SettingsFile.malformed_of_ofText hcontent
      refine Or.inr ⟨_, .malformed hread hcontent, ?_⟩
      rw [mergeFile_eq s hread, hcontent]
      rfl
    | ok f =>
      have hsaid : Says fs path f := ⟨text, hread, hcontent⟩
      rw [mergeFile_of_said s hsaid]
      rcases s.merge_cases fs f with ⟨hsane, interval, throttling, hinterval, hpos, hthrottling,
        hok⟩ | ⟨e, hfault, herror⟩
      · exact Or.inl ⟨fun e hfaulty => hsane e (hsaid.fault hfaulty), f, _, hsaid,
          h.concat hinterval hpos hthrottling, hok⟩
      · exact Or.inr ⟨e, .values hsaid hfault, herror⟩

/-- **What comes of several files**: all of them are merged, or the first one that is at fault says
    why not. -/
theorem mergeFiles_cases {fs : FileSystem} :
    ∀ (files : List String) {contents : List SettingsFile} {s : Settings}, Merged fs contents s →
      ((∀ file ∈ files, ∀ e, ¬ Faulty fs file e) ∧ ∃ more after,
        List.Forall₂ (Says fs) files more ∧ Merged fs (contents ++ more) after ∧
        mergeFiles fs s files = .ok after) ∨
      ∃ before file later e, files = before ++ file :: later ∧
        (∀ other ∈ before, ∀ e, ¬ Faulty fs other e) ∧ Faulty fs file e ∧
        mergeFiles fs s files = .error e
  | [], contents, s, h => by
    refine Or.inl ⟨nofun, [], s, .nil, ?_, rfl⟩
    rwa [List.append_nil]
  | file :: r, contents, s, h => by
    have hcons : mergeFiles fs s (file :: r) = mergeFile fs s file >>= fun s => mergeFiles fs s r :=
      List.foldlM_cons
    -- the settings so far are those from the files so far, so the rest is merged into them
    rw [hcons]
    rcases mergeFile_cases h file with ⟨hsane, f, next, hsaid, hnext, hok⟩ | ⟨e, hfaulty, herror⟩
    · have hbind : (mergeFile fs s file >>= fun s => mergeFiles fs s r) = mergeFiles fs next r := by
        rw [hok]
        rfl
      rw [hbind]
      rcases mergeFiles_cases r hnext with ⟨hrest, more, after, hmore, hmerged, hrun⟩ |
        ⟨before, other, later, e, hsplit, hbefore, hfaulty, hrun⟩
      · refine Or.inl ⟨?_, f :: more, after, .cons hsaid hmore, ?_, hrun⟩
        · exact List.forall_mem_cons.mpr ⟨hsane, hrest⟩
        · rwa [List.append_assoc] at hmerged
      · refine Or.inr ⟨file :: before, other, later, e, ?_, ?_, hfaulty, hrun⟩
        · rw [hsplit]
          rfl
        · exact List.forall_mem_cons.mpr ⟨hsane, hbefore⟩
    · refine Or.inr ⟨[], file, r, e, rfl, nofun, hfaulty, ?_⟩
      rw [herror]
      rfl

/-- A blank file is merged without a trace. -/
theorem mergeFile_of_blank {fs : FileSystem} (s : Settings) {path text : String}
    (readable : fs.readText path = .ok text) (blank : text.toList.all Text.isBlank = true) :
    mergeFile fs s path = .ok s := by
  have hsaid : Says fs path {} := ⟨text, readable, if_pos blank⟩
  have hrules : s.rules ++ [] = s.rules := List.append_nil _
  rw [mergeFile_of_said s hsaid]
  show Except.ok (⟨s.awx, s.throttling, s.rules ++ []⟩ : Settings) = _
  rw [hrules]

/-! ## Settings -/

/-- **Settings are merged in order.**  Take any paths, at least one.

    - If no file behind them is at fault, there are settings: of every single value the last that is
      given, of references to certificates and of rules all in the order of the files.
    - Otherwise the first file that is at fault tells why there are none, whatever comes later.
    - A blank file might as well not be there. -/
theorem Settings.merged_in_order (fs : FileSystem) (path : String) (paths : List String) :
    (((∀ file ∈ loadOrder fs (path :: paths), ∀ e, ¬ Faulty fs file e) ∧ ∃ contents s,
        List.Forall₂ (Says fs) (loadOrder fs (path :: paths)) contents ∧ Merged fs contents s ∧
        Settings.ofFiles fs (path :: paths) = .ok s) ∨
      ∃ before file later e, loadOrder fs (path :: paths) = before ++ file :: later ∧
        (∀ other ∈ before, ∀ e, ¬ Faulty fs other e) ∧ Faulty fs file e ∧
        Settings.ofFiles fs (path :: paths) = .error e) ∧
    ∀ before file later text, loadOrder fs (path :: paths) = before ++ file :: later →
      fs.readText file = .ok text → text.toList.all Text.isBlank = true →
      ∀ path' paths', loadOrder fs (path' :: paths') = before ++ later →
        Settings.ofFiles fs (path :: paths) = Settings.ofFiles fs (path' :: paths') := by
  refine ⟨?_, ?_⟩
  · rw [ofFiles_eq]
    exact mergeFiles_cases (loadOrder fs (path :: paths)) (.start fs)
  · intro before file later text horder readable blank path' paths' horder'
    rw [ofFiles_eq, ofFiles_eq, horder, horder']
    unfold mergeFiles
    rw [List.foldlM_append, List.foldlM_append]
    refine congrArg _ (funext fun s => ?_)
    rw [List.foldlM_cons, mergeFile_of_blank s readable blank]
    rfl

end Healing
