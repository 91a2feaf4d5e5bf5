/-
  Certificates from files and secrets.

  All certificates go into one bundle, text after text: first those of the files, each in place and
  then from its own file, and behind them those of the secrets.  A certificate is lost if it runs on
  in the line in which the text before it ends.  So a newline is put between the two, but only
  where there is none.

  1. **Lines** - `AtLineStart`: what follows a text starts a line.
  2. **Bundles** - `Piece`, a text and the newline in front of it; `Bundled`, what it means that
     pieces make up the bundle of some texts.  Some texts have one bundle (`Bundled.unique`).
  3. **Adding** - `Piece.behind`, what one more text adds to a bundle (`Bundled.concat`), and any
     number of texts (`IsBundle.foldl`).
  4. **Gathering** - `SettingsFile.gathered`, the texts of all files and secrets in order; the
     secrets add theirs to those of the files (`AwxSettings.settled_caCerts`).
  5. **Settings** - `Settings.Stopped`, what can stop the loading of settings; what comes of it
     otherwise (`Settings.outcome_merged`), and `Settings.certificates_bundled`.
-/
import Healing.Proofs.FileSystem
import Healing.Proofs.Settings.Credential
import Mathlib.Data.List.Induction

namespace Healing

/-! ## Lines -/

/-- Whether what follows a text starts a line. -/
def AtLineStart (s : String) : Prop := s = "" ∨ ∃ front, s = front ++ "\n"

/-- Whether a text ends where a line starts is seen from its last character. -/
theorem atLineStart_iff {s : String} :
    AtLineStart s ↔ (s.isEmpty || s.endsWith "\n") = true := by
  rw [Bool.or_eq_true, String.isEmpty_iff, endsWith_iff]
  refine or_congr_right ⟨?_, ?_⟩
  · rintro ⟨front, rfl⟩
    exact ⟨front.toList, String.toList_append.symm⟩
  · rintro ⟨front, hfront⟩
    refine ⟨String.ofList front, String.toList_inj.mp ?_⟩
    rw [String.toList_append, String.toList_ofList, hfront]

instance (s : String) : Decidable (AtLineStart s) := decidable_of_iff _ atLineStart_iff.symm

/-- A newline ends a line. -/
theorem atLineStart_newline (s : String) : AtLineStart (s ++ "\n") := Or.inr ⟨s, rfl⟩

/-! ## Bundles -/

/-- A text of a bundle. -/
structure Piece where
  text : String
  /-- Whether a newline has been put in front of the text. -/
  parted : Bool

namespace Piece

/-- What has been put in front of the text. -/
def gap (p : Piece) : String := if p.parted then "\n" else ""

/-- The piece without what has been put in front of it. -/
def bare (p : Piece) : Piece := { p with parted := false }

/-- Pieces one after the other, with what has been put in front of them. -/
def join (pieces : List Piece) : String := String.join (pieces.map fun p => p.gap ++ p.text)

/-- One piece more. -/
theorem join_concat (pieces : List Piece) (p : Piece) :
    join (pieces ++ [p]) = join pieces ++ p.gap ++ p.text := by
  unfold join
  rw [List.map_append, String.join_append, String.append_assoc]
  simp

/-- Bare pieces are nothing but their texts. -/
theorem join_map_bare (pieces : List Piece) :
    join (pieces.map bare) = String.join (pieces.map text) := by
  unfold join
  rw [List.map_map]
  refine congrArg _ (List.map_congr_left fun p _ => ?_)
  exact String.empty_append

end Piece

/-- **How texts are bundled.** -/
structure Bundled (texts : List String) (pieces : List Piece) (bundle : String) : Prop where
  /-- The pieces are the texts in order. -/
  ordered : pieces.map Piece.text = texts
  /-- The bundle is the pieces and the newlines in front of them. -/
  whole : Piece.join pieces = bundle
  /-- Without these newlines it is the texts one after the other. -/
  bare : Piece.join (pieces.map Piece.bare) = String.join texts
  /-- There is a newline in front of a text iff something stands before it and does not end in a
      newline. -/
  gaps : ∀ before p after, pieces = before ++ p :: after →
    (p.parted = true ↔ ¬ AtLineStart (Piece.join before))
  /-- Every text starts a line. -/
  starts : ∀ before p after, pieces = before ++ p :: after →
    AtLineStart (Piece.join before ++ p.gap)

/-- A list with one item more is split at that item or before it. -/
theorem split_concat {α : Type} {l before after : List α} {last x : α}
    (h : l ++ [last] = before ++ x :: after) :
    (l = before ∧ last = x) ∨ ∃ shorter, l = before ++ x :: shorter := by
  rcases List.eq_nil_or_concat after with rfl | ⟨shorter, other, rfl⟩
  · obtain ⟨hl, hlast⟩ := List.append_inj' h rfl
    exact Or.inl ⟨hl, List.singleton_inj.mp hlast⟩
  · rw [List.concat_eq_append, ← List.cons_append, ← List.append_assoc] at h
    exact Or.inr ⟨shorter, (List.append_inj' h rfl).1⟩

namespace Bundled

variable {texts : List String} {pieces : List Piece} {bundle : String}

/-- No text makes an empty bundle. -/
theorem start : Bundled [] [] "" where
  ordered := rfl
  whole := rfl
  bare := rfl
  gaps := by simp
  starts := by simp

/-- The pieces of all texts but the last one. -/
theorem init {p : Piece} {text : String} (h : Bundled (texts ++ [text]) (pieces ++ [p]) bundle) :
    Bundled texts pieces (Piece.join pieces) ∧ p.text = text ∧
      (p.parted = true ↔ ¬ AtLineStart (Piece.join pieces)) := by
  have htexts := h.ordered
  rw [List.map_append] at htexts
  obtain ⟨hinit, hlast⟩ := List.append_inj' htexts rfl
  refine ⟨⟨hinit, rfl, ?_, ?_, ?_⟩, List.singleton_inj.mp hlast, h.gaps _ _ [] rfl⟩
  · rw [Piece.join_map_bare, hinit]
  · rintro before q after rfl
    exact h.gaps before q (after ++ [p]) (by simp)
  · rintro before q after rfl
    exact h.starts before q (after ++ [p]) (by simp)

/-- The texts determine the pieces. -/
theorem pieces_unique {texts : List String} :
    ∀ {pieces others : List Piece} {bundle other : String},
      Bundled texts pieces bundle → Bundled texts others other → pieces = others := by
  induction texts using List.reverseRecOn with
  | nil =>
    intro pieces others _ _ h h'
    rw [List.map_eq_nil_iff.mp h.ordered, List.map_eq_nil_iff.mp h'.ordered]
  | append_singleton texts text ih =>
    intro pieces others _ _ h h'
    rcases List.eq_nil_or_concat pieces with rfl | ⟨pieces, p, rfl⟩
    · exact absurd h.ordered.symm (by simp)
    rcases List.eq_nil_or_concat others with rfl | ⟨others, q, rfl⟩
    · exact absurd h'.ordered.symm (by simp)
    simp only [List.concat_eq_append] at h h' ⊢
    obtain ⟨hinit, hp, hgap⟩ := h.init
    obtain ⟨hinit', hq, hgap'⟩ := h'.init
    -- what stands before the last texts is the same, and so is the newline
    obtain rfl := ih hinit hinit'
    obtain ⟨ptext, parted⟩ := p
    obtain ⟨qtext, parted'⟩ := q
    obtain rfl : ptext = text := hp
    obtain rfl : qtext = ptext := hq
    obtain rfl : parted = parted' := Bool.eq_iff_iff.mpr (hgap.trans hgap'.symm)
    rfl

/-- **Some texts have one bundle.** -/
theorem unique {others : List Piece} {other : String} (h : Bundled texts pieces bundle)
    (h' : Bundled texts others other) : bundle = other := by
  rw [← h.whole, ← h'.whole, h.pieces_unique h']

end Bundled

/-! ## Adding -/

namespace Piece

/-- The piece that a text makes behind a bundle. -/
def behind (bundle text : String) : Piece := ⟨text, !decide (AtLineStart bundle)⟩

/-- A newline is put in front of a text that would not start a line. -/
theorem parted_behind (bundle text : String) :
    (behind bundle text).parted = true ↔ ¬ AtLineStart bundle := by
  unfold behind
  simp

/-- So every text starts a line. -/
theorem atLineStart_behind (bundle text : String) :
    AtLineStart (bundle ++ (behind bundle text).gap) := by
  unfold gap
  by_cases h : AtLineStart bundle
  · rw [if_neg (fun hparted => (parted_behind bundle text).mp hparted h), String.append_empty]
    exact h
  · rw [if_pos ((parted_behind bundle text).mpr h)]
    exact atLineStart_newline bundle

/-- What is added to a bundle is the piece of the text. -/
theorem appendText_eq (bundle text : String) :
    appendText bundle text = bundle ++ (behind bundle text).gap ++ text := by
  unfold appendText gap
  by_cases h : AtLineStart bundle
  · rw [if_pos (atLineStart_iff.mp h),
      if_neg (fun hparted => (parted_behind bundle text).mp hparted h), String.append_empty]
  · rw [if_neg (mt atLineStart_iff.mpr h), if_pos ((parted_behind bundle text).mpr h)]

end Piece

/-- **One text more** starts on a line of its own. -/
theorem Bundled.concat {texts : List String} {pieces : List Piece} {bundle : String}
    (h : Bundled texts pieces bundle) (text : String) :
    Bundled (texts ++ [text]) (pieces ++ [.behind bundle text]) (appendText bundle text) := by
  have htexts : (pieces ++ [Piece.behind bundle text]).map Piece.text = texts ++ [text] := by
    rw [List.map_append, h.ordered]
    rfl
  refine ⟨htexts, ?_, ?_, ?_, ?_⟩
  · rw [Piece.join_concat, h.whole, Piece.appendText_eq]
    rfl
  · rw [Piece.join_map_bare, htexts]
  · intro before p after hsplit
    rcases split_concat hsplit with ⟨rfl, rfl⟩ | ⟨shorter, hshorter⟩
    · rw [h.whole]
      exact Piece.parted_behind bundle text
    · exact h.gaps before p shorter hshorter
  · intro before p after hsplit
    rcases split_concat hsplit with ⟨rfl, rfl⟩ | ⟨shorter, hshorter⟩
    · rw [h.whole]
      exact Piece.atLineStart_behind bundle text
    · exact h.starts before p shorter hshorter

/-- The certificates of some texts: none without a text, or else their bundle. -/
def IsBundle (texts : List String) : Option String → Prop
  | none => texts = []
  | some bundle => texts ≠ [] ∧ ∃ pieces, Bundled texts pieces bundle

namespace IsBundle

/-- One text more is bundled with the others. -/
theorem concat {texts : List String} {certs : Option String} (h : IsBundle texts certs)
    (text : String) : IsBundle (texts ++ [text]) (appendCerts certs text) := by
  refine ⟨by simp, ?_⟩
  cases certs with
  | none =>
    obtain rfl : texts = [] := h
    exact ⟨_, Bundled.start.concat text⟩
  | some bundle =>
    obtain ⟨-, pieces, hpieces⟩ := h
    exact ⟨_, hpieces.concat text⟩

/-- **Any number of texts** is bundled one by one. -/
theorem foldl {texts : List String} {certs : Option String} (h : IsBundle texts certs)
    (more : List String) : IsBundle (texts ++ more) (more.foldl appendCerts certs) := by
  induction more generalizing texts certs with
  | nil => rwa [List.append_nil]
  | cons text r ih =>
    rw [List.append_cons]
    exact ih (h.concat text)

end IsBundle

/-! ## Gathering -/

/-- The texts with certificates: those of the files, in order, and those in the secrets that their
    references lead to. -/
def SettingsFile.gathered (fs : FileSystem) (source : Option SecretSource)
    (contents : List SettingsFile) : List String :=
  contents.flatMap (·.certTexts fs)
    ++ (contents.filterMap (·.value? (·.tlsRef))).filterMap (·.text? source "ca.crt")

namespace AwxSettings

variable (source : Option SecretSource)

/-- References to certificates add what they lead to. -/
theorem foldl_certs_caCerts (refs : List SecretRef) : ∀ s : AwxSettings,
    ((refs.map .certs).foldl (Referral.taken source) s).caCerts
      = (refs.filterMap (·.text? source "ca.crt")).foldl appendCerts s.caCerts := by
  induction refs with
  | nil => exact fun _ => rfl
  | cons r rest ih =>
    intro s
    have hone : ((Referral.certs r).taken source s).caCerts
        = (r.text? source "ca.crt").elim s.caCerts (appendCerts s.caCerts) := rfl
    rw [List.map_cons, List.foldl_cons, ih, hone, List.filterMap_cons]
    cases r.text? source "ca.crt" <;> rfl

/-- **The certificates after all references**: those that there were, and what the references lead
    to, in order. -/
theorem settled_caCerts (s : AwxSettings) :
    (s.settled source).caCerts
      = (s.tlsRefs.filterMap (·.text? source "ca.crt")).foldl appendCerts s.caCerts := by
  unfold settled references
  rw [List.foldl_append, foldl_certs_caCerts]
  cases s.credentialsRef <;> rfl

end AwxSettings

/-- Settings from several files, with what their references lead to, have the bundle of all
    certificates. -/
theorem Merged.isBundle {fs : FileSystem} {contents : List SettingsFile} {s : Settings}
    (h : Merged fs contents s) (source : Option SecretSource) :
    IsBundle (SettingsFile.gathered fs source contents) (s.awx.settled source).caCerts := by
  have hfiles : IsBundle (contents.flatMap (·.certTexts fs)) s.awx.caCerts := by
    have hnone : IsBundle [] none := rfl
    rw [h.caCerts]
    exact hnone.foldl _
  rw [AwxSettings.settled_caCerts, h.tlsRefs]
  exact hfiles.foldl _

/-! ## Settings -/

namespace Settings

/-- What can stop the loading of settings. -/
inductive Stopped (fs : FileSystem) (source : Option SecretSource) :
    List String → SettingsError → Prop
  | noPath : Stopped fs source [] .noFiles
  | file {paths : List String} {file : String} {e : SettingsError}
    (listed : file ∈ loadOrder fs paths) (faulty : Faulty fs file e) : Stopped fs source paths e
  | reference {paths : List String} {contents : List SettingsFile} {x : Referral}
    {e : SettingsError} (said : List.Forall₂ (Says fs) (loadOrder fs paths) contents)
    (given : x ∈ SettingsFile.referrals contents) (fault : x.Fault source e) :
    Stopped fs source paths e

section Loading

variable (fs : FileSystem) (paths : List String) (source : Option SecretSource)
  (environment : String → Option String)

/-- What comes of loading settings, whatever has been looked up for it. -/
def outcome : Except SettingsError Settings := ((load fs paths source environment).run.run []).1

variable {fs paths}

/-- Without settings in the files there are none. -/
theorem outcome_of_error {e : SettingsError} (h : ofFiles fs paths = .error e) :
    outcome fs paths source environment = .error e := by
  unfold outcome load
  rw [h]
  rfl

/-- What comes of settings in the files: their references are followed, or one of them is at
    fault. -/
theorem outcome_cases {s : Settings} (h : ofFiles fs paths = .ok s) :
    outcome fs paths source environment
        = .ok { s with awx := (s.awx.settled source).override environment } ∨
      ∃ x ∈ s.awx.references, ∃ e, x.Fault source e ∧
        outcome fs paths source environment = .error e := by
  have houtcome : outcome fs paths source environment = (((do
      let awx ← s.awx.resolve source
      pure { s with awx := awx.override environment }) : Lookup Settings).run.run []).1 := by
    unfold outcome load
    rw [h]
    rfl
  rw [houtcome]
  rcases s.awx.resolve_cases source [] with ⟨-, hrun⟩ |
    ⟨before, x, after, e, hsplit, -, hfault, hrun⟩
  · left
    rw [Lookup.run_bind hrun]
    rfl
  · refine Or.inr ⟨x, ?_, e, hfault, ?_⟩
    · rw [hsplit]
      exact List.mem_append_right _ (List.mem_cons_self ..)
    · rw [Lookup.run_bind_of_error hrun]

variable (fs paths)

/-- **What comes of loading settings**: they are those from the files, with what the references lead
    to, or something has stopped the loading. -/
theorem outcome_merged :
    (∃ e, Stopped fs source paths e ∧ outcome fs paths source environment = .error e) ∨
    ∃ contents s, List.Forall₂ (Says fs) (loadOrder fs paths) contents ∧ Merged fs contents s ∧
      outcome fs paths source environment
        = .ok { s with awx := (s.awx.settled source).override environment } := by
  cases paths with
  | nil => exact Or.inl ⟨.noFiles, .noPath, outcome_of_error source environment rfl⟩
  | cons path paths =>
    rcases mergeFiles_cases (loadOrder fs (path :: paths)) (.start fs) with
      ⟨-, contents, s, hsaid, hmerged, hok⟩ | ⟨before, file, later, e, hsplit, -, hfaulty, hfail⟩
    case inr =>
      rw [← ofFiles_eq] at hfail
      have hlisted : file ∈ loadOrder fs (path :: paths) := by
        rw [hsplit]
        exact List.mem_append_right _ (List.mem_cons_self ..)
      exact Or.inl ⟨e, .file hlisted hfaulty, outcome_of_error source environment hfail⟩
    rw [← ofFiles_eq] at hok
    rw [List.nil_append] at hmerged
    rcases outcome_cases source environment hok with hloaded | ⟨x, hx, e, hfault, hfail⟩
    · exact Or.inr ⟨contents, s, hsaid, hmerged, hloaded⟩
    · have hreferences : s.awx.references = SettingsFile.referrals contents := by
        unfold AwxSettings.references SettingsFile.referrals
        rw [hmerged.credentialsRef, hmerged.tlsRefs]
      rw [hreferences] at hx
      exact Or.inl ⟨e, .reference hsaid hx hfault, hfail⟩

/-- **Certificates are bundled in order.**  Take any paths, secrets and environment.  Unless there
    is no path, or a file or a reference is at fault, there are settings.

    - They have no certificates iff no file and no secret gives any.
    - Otherwise they have the bundle of all texts with certificates, and there is no other: the
      texts stand in it in order, each at the start of a line, and apart from them there is nothing
      but a newline wherever the texts so far do not end in one. -/
theorem certificates_bundled :
    (∃ e, Stopped fs source paths e ∧ outcome fs paths source environment = .error e) ∨
    ∃ contents s, List.Forall₂ (Says fs) (loadOrder fs paths) contents ∧
      outcome fs paths source environment = .ok s ∧
      (s.awx.caCerts = none ↔ SettingsFile.gathered fs source contents = []) ∧
      ∀ bundle, s.awx.caCerts = some bundle →
        (∃ pieces, Bundled (SettingsFile.gathered fs source contents) pieces bundle) ∧
        ∀ pieces other, Bundled (SettingsFile.gathered fs source contents) pieces other →
          other = bundle := by
  rcases outcome_merged fs paths source environment with hstopped |
    ⟨contents, s, hsaid, hmerged, hloaded⟩
  · exact Or.inl hstopped
  -- the environment has no certificates
  have hbundle : IsBundle (SettingsFile.gathered fs source contents)
      ((s.awx.settled source).override environment).caCerts := hmerged.isBundle source
  refine Or.inr ⟨contents, _, hsaid, hloaded, ?_⟩
  cases hcerts : ((s.awx.settled source).override environment).caCerts with
  | none =>
    rw [hcerts] at hbundle
    exact ⟨⟨fun _ => hbundle, fun _ => rfl⟩, nofun⟩
  | some bundle =>
    rw [hcerts] at hbundle
    obtain ⟨hne, pieces, hpieces⟩ := hbundle
    refine ⟨⟨nofun, fun hnil => absurd hnil hne⟩, ?_⟩
    rintro _ ⟨⟩
    exact ⟨⟨pieces, hpieces⟩, fun _ _ h => h.unique hpieces⟩

end Loading

end Settings

namespace TwoSources

/-- A file that has a certificate in place, names a file that is empty, and refers to a secret. -/
def files : FileSystem where
  here := .folder {}
    [("site.yml", .file (.ok ("awx:\n  tls:\n    caCerts: ONE\n    caFile: more.pem\n"
      ++ "  tlsRef:\n    namespace: ops\n    name: ca\n").toUTF8)),
    ("more.pem", .file (.ok "".toUTF8))]

/-- The secret, which has another certificate. -/
def secrets : SecretSource := fun _ _ =>
  .found ((∅ : KeyMap String ByteArray).insert "ca.crt" "TWO\n".toUTF8)

/-- What comes of loading the file. -/
def outcome : Except SettingsError Settings :=
  Settings.outcome files ["site.yml"] (some secrets) fun _ => none

theorem caCerts_outcome : outcome.toOption.bind (·.awx.caCerts) = some "ONE\nTWO\n" := by
  decide +kernel

theorem gathered_site : ((files.readText "site.yml").toOption.bind fun text =>
    (SettingsFile.ofText "site.yml" text).toOption.map fun f =>
      SettingsFile.gathered files (some secrets) [f]) = some ["ONE", "", "TWO\n"] := by
  decide +kernel

/-- Whatever the file is taken to say, these are the texts. -/
theorem gathered_of_said {contents : List SettingsFile}
    (h : List.Forall₂ (Says files) ["site.yml"] contents) :
    SettingsFile.gathered files (some secrets) contents = ["ONE", "", "TWO\n"] := by
  obtain ⟨f, _, ⟨text, hread, hcontent⟩, hnil, rfl⟩ := List.forall₂_cons_left_iff.mp h
  obtain rfl := List.forall₂_nil_left_iff.mp hnil
  have hsite := gathered_site
  simp only [hread, Except.toOption, Option.bind_some, hcontent, Option.map_some] at hsite
  exact Option.some.inj hsite

/-- The empty text ends the line of the first certificate, so that the second one needs no newline
    of its own. -/
theorem certificates_bundled_of_two :
    ∃ contents s, List.Forall₂ (Says files) ["site.yml"] contents ∧ outcome = .ok s ∧
      SettingsFile.gathered files (some secrets) contents = ["ONE", "", "TWO\n"] ∧
      s.awx.caCerts = some "ONE\nTWO\n" ∧
      ∃ pieces, Bundled ["ONE", "", "TWO\n"] pieces "ONE\nTWO\n" := by
  have horder : loadOrder files ["site.yml"] = ["site.yml"] := by decide +kernel
  have hcerts := caCerts_outcome
  unfold outcome at hcerts ⊢
  rcases Settings.certificates_bundled files ["site.yml"] (some secrets) fun _ => none with
    ⟨e, -, herror⟩ | ⟨contents, s, hsaid, hok, -, hbundle⟩
  · rw [herror] at hcerts
    cases hcerts
  rw [hok] at hcerts
  rw [horder] at hsaid
  obtain ⟨hpieces, -⟩ := hbundle _ hcerts
  rw [gathered_of_said hsaid] at hpieces
  exact ⟨contents, s, hsaid, hok, gathered_of_said hsaid, hcerts, hpieces⟩

end TwoSources

end Healing
