/-
  Credentials from files, secrets and the environment.

  A user name and a password can come from three places.  The environment counts before a secret,
  and a secret before the files; the two values are settled independently.  But what a place says is
  not only a value: a reference that leads nowhere stops the loading, even if its values would not
  have been used.

  1. **References** - `Referral`, to credentials or to certificates; `AwxSettings.references`, in
     the order in which they are followed.
  2. **Secrets** - `SecretRef.text?`, the text that a reference leads to; `SecretRef.lookups`, what
     is looked up for it.
  3. **Faults** - `Referral.Fault`, what can be wrong with a reference, and the error it causes.
  4. **Following** - `Referral.follow_cases`: what comes of one reference;
     `AwxSettings.followAll_cases`: what comes of several.
  5. **Settings** - the references of settings are followed in order (`AwxSettings.resolve_eq`);
     `AwxSettings.settled_values`: what is left then; `Settings.load_in_order`.
-/
import Healing.Proofs.Settings.Merging
import Healing.Settings.Credential

namespace Healing

/-! ## References -/

/-- A reference of the settings to a secret. -/
inductive Referral where
  | credentials (ref : SecretRef)
  | certs (ref : SecretRef)

namespace Referral

/-- The secret that a reference is to. -/
def secret : Referral → SecretRef
  | .credentials r => r
  | .certs r => r

/-- The keys of the secret that are used, in order. -/
def keys : Referral → List String
  | .credentials _ => ["username", "password"]
  | .certs _ => ["ca.crt"]

end Referral

/-- The references of settings to secrets, in the order in which they are followed. -/
def AwxSettings.references (s : AwxSettings) : List Referral :=
  s.credentialsRef.toList.map .credentials ++ s.tlsRefs.map .certs

/-! ## Secrets -/

namespace SecretRef

variable (source : Option SecretSource) (r : SecretRef)

/-- Whether a reference names a secret completely. -/
def Names (space name : String) : Prop := given r.name = some name ∧ given r.space = some space

/-- The values of the secret that a reference leads to. -/
def data? : Option (KeyMap String ByteArray) :=
  (given r.name).bind fun name => (given r.space).bind fun space => source.bind fun lookup =>
    match lookup space name with
    | .found data => some data
    | _ => none

/-- The text under a key of the secret that a reference leads to. -/
def text? (key : String) : Option String :=
  (r.data? source).bind fun data => (data.get? key).bind String.fromUTF8?

/-- What is looked up for a reference: nothing, unless it is complete and can be looked up. -/
def lookups : List (String × String) :=
  ((given r.name).bind fun name => (given r.space).bind fun space =>
    source.map fun _ => (space, name)).toList

/-- There is at most one look-up. -/
theorem reverse_lookups : (r.lookups source).reverse = r.lookups source := by
  unfold lookups
  cases (given r.name).bind fun name => (given r.space).bind fun space =>
    source.map fun _ => (space, name) <;> rfl

end SecretRef

/-! ## Faults -/

/-- What can be wrong with a reference: it lacks a part, of which the name counts first, or there is
    no such secret, or a value of it that is used is no text. -/
inductive Referral.Fault (source : Option SecretSource) (x : Referral) : SettingsError → Prop
  | noName (name : given x.secret.name = none) : Fault source x (.incompleteSecret .name)
  | noSpace {name : String} (name : given x.secret.name = some name)
    (space : given x.secret.space = none) : Fault source x (.incompleteSecret .space)
  | noSource {space name : String} (names : x.secret.Names space name) (missing : source = none) :
    Fault source x (.noSecretSource space name)
  | missing {lookup : SecretSource} {space name : String} (names : x.secret.Names space name)
    (found : source = some lookup) (answer : lookup space name = .missing) :
    Fault source x (.secretNotFound space name)
  | failed {lookup : SecretSource} {space name : String} (names : x.secret.Names space name)
    (found : source = some lookup) (answer : lookup space name = .failed) :
    Fault source x (.secretFailed space name)
  | notText {lookup : SecretSource} {space name key : String} {data : KeyMap String ByteArray}
    {bytes : ByteArray} {before after : List String} (names : x.secret.Names space name)
    (found : source = some lookup) (answer : lookup space name = .found data)
    (keys : x.keys = before ++ key :: after)
    (earlier : ∀ other ∈ before, ∀ bytes, data.get? other = some bytes →
      (String.fromUTF8? bytes).isSome)
    (value : data.get? key = some bytes) (notText : String.fromUTF8? bytes = none) :
    Fault source x (.secretNotText space name key)

/-! ## Following -/

/-- Follow a reference: take over what it leads to. -/
def Referral.follow (source : Option SecretSource) (s : AwxSettings) :
    Referral → Lookup AwxSettings
  | .credentials r => do
    let secret ← r.resolve source
    s.useCredentials secret
  | .certs r => do
    let secret ← r.resolve source
    s.useCerts secret

/-- The settings with what a reference leads to. -/
def Referral.taken (source : Option SecretSource) (s : AwxSettings) : Referral → AwxSettings
  | .credentials r =>
    { s with
      username := (r.text? source "username").getD s.username
      password := (r.text? source "password").getD s.password
      credentialsRef := none }
  | .certs r => { s with caCerts := (r.text? source "ca.crt").elim s.caCerts (appendCerts s.caCerts) }

section Steps

variable {α β : Type} {x : Lookup α} {f : α → Lookup β} {log log' : List (String × String)}

/-- A step that has succeeded is followed by the next one. -/
theorem Lookup.run_bind {a : α} (h : x.run.run log = (.ok a, log')) :
    (x >>= f).run.run log = (f a).run.run log' := by
  show (do let r ← x.run; ExceptT.bindCont f r : StateM _ _).run log = _
  rw [StateT.run_bind, h]
  rfl

/-- A step that has failed is the last one. -/
theorem Lookup.run_bind_of_error {e : SettingsError} (h : x.run.run log = (.error e, log')) :
    (x >>= f).run.run log = (.error e, log') := by
  show (do let r ← x.run; ExceptT.bindCont f r : StateM _ _).run log = _
  rw [StateT.run_bind, h]
  rfl

end Steps

/-- The secret of an answer. -/
def SecretAnswer.secret (space name : String) : SecretAnswer → Except SettingsError Secret
  | .found data => .ok ⟨space, name, data⟩
  | .missing => .error (.secretNotFound space name)
  | .failed => .error (.secretFailed space name)

/-- What comes of looking up the secret of a reference. -/
theorem SecretRef.resolve_cases (source : Option SecretSource) (r : SecretRef)
    (log : List (String × String)) :
    (∃ lookup space name data, source = some lookup ∧ r.Names space name ∧
      lookup space name = .found data ∧
      (r.resolve source).run.run log = (.ok ⟨space, name, data⟩, r.lookups source ++ log)) ∨
    ∃ e, (∀ x : Referral, x.secret = r → x.Fault source e) ∧
      (r.resolve source).run.run log = (.error e, r.lookups source ++ log) := by
  unfold resolve lookups
  cases hname : given r.name with
  | none =>
    have hcomplete : r.complete = .error (.incompleteSecret .name) := by
      unfold complete
      rw [hname]
      rfl
    refine Or.inr ⟨.incompleteSecret .name, ?_, ?_⟩
    · rintro x rfl
      exact .noName hname
    · rw [hcomplete]
      rfl
  | some name =>
    cases hspace : given r.space with
    | none =>
      have hcomplete : r.complete = .error (.incompleteSecret .space) := by
        unfold complete
        rw [hname, hspace]
        rfl
      refine Or.inr ⟨.incompleteSecret .space, ?_, ?_⟩
      · rintro x rfl
        exact .noSpace hname hspace
      · rw [hcomplete]
        rfl
    | some space =>
      have hnames : r.Names space name := ⟨hname, hspace⟩
      have hcomplete : r.complete = .ok (name, space) := by
        unfold complete
        rw [hname, hspace]
        rfl
      cases source with
      | none =>
        refine Or.inr ⟨.noSecretSource space name, ?_, ?_⟩
        · rintro x rfl
          exact .noSource hnames rfl
        · rw [hcomplete]
          rfl
      | some lookup =>
        have hrun : (r.resolve (some lookup)).run.run log
            = ((lookup space name).secret space name, (space, name) :: log) := by
          have hnamed : (liftM (Except.ok (name, space) : Except SettingsError _) :
              Lookup (String × String)).run.run log = (.ok (name, space), log) := rfl
          have hlooked : (modify ((space, name) :: ·) : Lookup Unit).run.run log
              = (.ok (), (space, name) :: log) := rfl
          unfold resolve
          rw [hcomplete, Lookup.run_bind hnamed]
          dsimp only
          rw [Lookup.run_bind hlooked]
          cases lookup space name <;> rfl
        unfold resolve at hrun
        cases hanswer : lookup space name with
        | found data =>
          rw [hanswer] at hrun
          exact Or.inl ⟨lookup, space, name, data, rfl, hnames, hanswer, hrun⟩
        | missing =>
          rw [hanswer] at hrun
          refine Or.inr ⟨.secretNotFound space name, ?_, hrun⟩
          rintro x rfl
          exact .missing hnames rfl hanswer
        | failed =>
          rw [hanswer] at hrun
          refine Or.inr ⟨.secretFailed space name, ?_, hrun⟩
          rintro x rfl
          exact .failed hnames rfl hanswer

/-- A value is absent, or a text, or no text. -/
theorem Secret.value_cases (secret : Secret) (key : String) :
    (secret.value key = .ok ((secret.data.get? key).bind String.fromUTF8?) ∧
      ∀ bytes, secret.data.get? key = some bytes → (String.fromUTF8? bytes).isSome) ∨
    ∃ bytes, secret.data.get? key = some bytes ∧ String.fromUTF8? bytes = none ∧
      secret.value key = .error (.secretNotText secret.space secret.name key) := by
  unfold value
  cases hvalue : secret.data.get? key with
  | none => exact Or.inl ⟨rfl, nofun⟩
  | some bytes =>
    cases htext : String.fromUTF8? bytes with
    | none =>
      refine Or.inr ⟨bytes, rfl, htext, ?_⟩
      simp only [htext]
    | some text =>
      refine Or.inl ⟨?_, ?_⟩
      · simp only [Option.bind_some, htext]
      · rintro _ ⟨⟩
        rw [htext]
        rfl

/-- A reference that leads to a secret whose values are texts is not at fault. -/
theorem Referral.not_fault {x : Referral} {lookup : SecretSource} {space name : String}
    {data : KeyMap String ByteArray} (names : x.secret.Names space name)
    (answer : lookup space name = .found data)
    (texts : ∀ key ∈ x.keys, ∀ bytes, data.get? key = some bytes →
      (String.fromUTF8? bytes).isSome) (e : SettingsError) : ¬ x.Fault (some lookup) e := by
  have hsame : ∀ {space' name'}, x.secret.Names space' name' → space' = space ∧ name' = name := by
    rintro space' name' ⟨hname, hspace⟩
    rw [names.1] at hname
    rw [names.2] at hspace
    cases hname
    cases hspace
    exact ⟨rfl, rfl⟩
  intro hfault
  cases hfault with
  | noName hname =>
    rw [names.1] at hname
    cases hname
  | noSpace _ hspace =>
    rw [names.2] at hspace
    cases hspace
  | noSource _ hmissing => cases hmissing
  | missing names' found answer' =>
    cases found
    obtain ⟨rfl, rfl⟩ := hsame names'
    rw [answer] at answer'
    cases answer'
  | failed names' found answer' =>
    cases found
    obtain ⟨rfl, rfl⟩ := hsame names'
    rw [answer] at answer'
    cases answer'
  | notText names' found answer' keys _ value notText =>
    cases found
    obtain ⟨rfl, rfl⟩ := hsame names'
    rw [answer] at answer'
    cases answer'
    have hmem := keys ▸ List.mem_append_right _ (List.mem_cons_self ..)
    have hsome := texts _ hmem _ value
    rw [notText] at hsome
    cases hsome

/-- What comes of a step that looks nothing up. -/
theorem Lookup.run_lift {α : Type} (x : Except SettingsError α) (log : List (String × String)) :
    (liftM x : Lookup α).run.run log = (x, log) := by
  cases x <;> rfl

/-- **What comes of one reference**: the settings with what it leads to, or it is at fault.  Nothing
    is looked up but its secret. -/
theorem Referral.follow_cases (source : Option SecretSource) (s : AwxSettings) (x : Referral)
    (log : List (String × String)) :
    ((∀ e, ¬ x.Fault source e) ∧ (x.follow source s).run.run log
      = (.ok (x.taken source s), x.secret.lookups source ++ log)) ∨
    ∃ e, x.Fault source e ∧
      (x.follow source s).run.run log = (.error e, x.secret.lookups source ++ log) := by
  rcases x.secret.resolve_cases source log with ⟨lookup, space, name, data, rfl, names, answer,
    hrun⟩ | ⟨e, hfault, hrun⟩
  case inr =>
    refine Or.inr ⟨e, hfault x rfl, ?_⟩
    cases x <;> exact Lookup.run_bind_of_error hrun
  have hdata : x.secret.data? (some lookup) = some data := by
    unfold SecretRef.data?
    simp only [names.1, names.2, Option.bind_some, answer]
  have htext (key : String) :
      x.secret.text? (some lookup) key = (data.get? key).bind String.fromUTF8? := by
    unfold SecretRef.text?
    rw [hdata, Option.bind_some]
  cases x with
  | credentials r =>
    have hfollow : (Referral.follow (some lookup) s (.credentials r)).run.run log
        = (s.useCredentials ⟨space, name, data⟩, r.lookups (some lookup) ++ log) :=
      (Lookup.run_bind hrun).trans (Lookup.run_lift ..)
    rw [hfollow]
    unfold AwxSettings.useCredentials
    rcases Secret.value_cases ⟨space, name, data⟩ "username" with ⟨huser, husers⟩ |
      ⟨bytes, hbytes, hnot, huser⟩
    case inr =>
      have hkeys : (Referral.credentials r).keys = [] ++ "username" :: ["password"] := rfl
      refine Or.inr ⟨_, .notText names rfl answer hkeys nofun hbytes hnot, ?_⟩
      rw [huser]
      rfl
    rcases Secret.value_cases ⟨space, name, data⟩ "password" with ⟨hpass, hpasses⟩ |
      ⟨bytes, hbytes, hnot, hpass⟩
    case inr =>
      have hkeys : (Referral.credentials r).keys = ["username"] ++ "password" :: [] := rfl
      refine Or.inr ⟨_, .notText names rfl answer hkeys ?_ hbytes hnot, ?_⟩
      · exact List.forall_mem_singleton.mpr husers
      · rw [huser, hpass]
        rfl
    refine Or.inl ⟨Referral.not_fault names answer ?_, ?_⟩
    · exact List.forall_mem_cons.mpr ⟨husers, List.forall_mem_singleton.mpr hpasses⟩
    · have huserText : r.text? (some lookup) "username" = _ := htext "username"
      have hpassText : r.text? (some lookup) "password" = _ := htext "password"
      rw [huser, hpass]
      dsimp only [Referral.taken]
      rw [huserText, hpassText]
      rfl
  | certs r =>
    have hfollow : (Referral.follow (some lookup) s (.certs r)).run.run log
        = (s.useCerts ⟨space, name, data⟩, r.lookups (some lookup) ++ log) :=
      (Lookup.run_bind hrun).trans (Lookup.run_lift ..)
    rw [hfollow]
    unfold AwxSettings.useCerts
    rcases Secret.value_cases ⟨space, name, data⟩ "ca.crt" with ⟨hcerts, hall⟩ |
      ⟨bytes, hbytes, hnot, hcerts⟩
    case inr =>
      have hkeys : (Referral.certs r).keys = [] ++ "ca.crt" :: [] := rfl
      refine Or.inr ⟨_, .notText names rfl answer hkeys nofun hbytes hnot, ?_⟩
      rw [hcerts]
      rfl
    refine Or.inl ⟨Referral.not_fault names answer (List.forall_mem_singleton.mpr hall), ?_⟩
    have hcertsText : r.text? (some lookup) "ca.crt" = _ := htext "ca.crt"
    rw [hcerts]
    dsimp only [Referral.taken]
    rw [hcertsText]
    cases (data.get? "ca.crt").bind String.fromUTF8? <;> rfl

/-- Follow some references in order. -/
def AwxSettings.followAll (source : Option SecretSource) (s : AwxSettings) (refs : List Referral) :
    Lookup AwxSettings :=
  refs.foldlM (Referral.follow source) s

/-- **What comes of several references**: the settings with what all of them lead to, or the first
    one that is at fault says why not.  The secrets are looked up in the order of the references,
    and none after a fault. -/
theorem AwxSettings.followAll_cases (source : Option SecretSource) :
    ∀ (refs : List Referral) (s : AwxSettings) (log : List (String × String)),
      ((∀ x ∈ refs, ∀ e, ¬ x.Fault source e) ∧ (s.followAll source refs).run.run log
        = (.ok (refs.foldl (Referral.taken source) s),
          (refs.flatMap (·.secret.lookups source)).reverse ++ log)) ∨
      ∃ before x after e, refs = before ++ x :: after ∧
        (∀ y ∈ before, ∀ e, ¬ y.Fault source e) ∧ x.Fault source e ∧
        (s.followAll source refs).run.run log
          = (.error e, ((before ++ [x]).flatMap (·.secret.lookups source)).reverse ++ log)
  | [], s, log => Or.inl ⟨nofun, rfl⟩
  | x :: r, s, log => by
    have hone := x.secret.reverse_lookups source
    have hcons : s.followAll source (x :: r)
        = x.follow source s >>= fun s => s.followAll source r := List.foldlM_cons
    rw [hcons]
    rcases x.follow_cases source s log with ⟨hsound, hrun⟩ | ⟨e, hfault, hrun⟩
    case inr =>
      refine Or.inr ⟨[], x, r, e, rfl, nofun, hfault, ?_⟩
      rw [Lookup.run_bind_of_error hrun, List.nil_append, List.flatMap_singleton, hone]
    -- the references that are left are followed with the secrets so far looked up
    rw [Lookup.run_bind hrun]
    rcases followAll_cases source r (x.taken source s) (x.secret.lookups source ++ log) with
      ⟨hrest, hall⟩ | ⟨before, y, after, e, rfl, hbefore, hfault, hall⟩
    · refine Or.inl ⟨List.forall_mem_cons.mpr ⟨hsound, hrest⟩, ?_⟩
      rw [hall, List.flatMap_cons, List.reverse_append, hone, List.append_assoc]
      rfl
    · refine Or.inr ⟨x :: before, y, after, e, rfl, List.forall_mem_cons.mpr ⟨hsound, hbefore⟩,
        hfault, ?_⟩
      rw [hall, List.cons_append, List.flatMap_cons, List.reverse_append, hone, List.append_assoc]

/-! ## Settings -/

namespace AwxSettings

/-- The settings without references. -/
def bare (s : AwxSettings) : AwxSettings := { s with credentialsRef := none, tlsRefs := [] }

/-- References to certificates are followed one by one. -/
theorem foldlM_certs (source : Option SecretSource) (refs : List SecretRef) (s : AwxSettings) :
    refs.foldlM (fun (s : AwxSettings) r => do
      let secret ← r.resolve source
      s.useCerts secret : AwxSettings → SecretRef → Lookup AwxSettings) s
      = s.followAll source (refs.map .certs) := by
  unfold followAll
  rw [List.foldlM_map]
  rfl

/-- The user name and the password are taken over whatever other references there are. -/
theorem useCredentials_bare (s : AwxSettings) (secret : Secret) :
    (∃ e, s.useCredentials secret = .error e ∧ s.bare.useCredentials secret = .error e) ∨
    ∃ after, s.useCredentials secret = .ok after ∧ after.tlsRefs = s.tlsRefs ∧
      s.bare.useCredentials secret = .ok { after with tlsRefs := [] } := by
  unfold useCredentials bare
  cases secret.value "username" with
  | error e => exact Or.inl ⟨e, rfl, rfl⟩
  | ok username =>
    cases secret.value "password" with
    | error e => exact Or.inl ⟨e, rfl, rfl⟩
    | ok password => exact Or.inr ⟨_, rfl, rfl, rfl⟩

/-- **The references of settings are followed in order.** -/
theorem resolve_eq (source : Option SecretSource) (s : AwxSettings) :
    s.resolve source = s.bare.followAll source s.references := by
  unfold resolve references
  simp only [foldlM_certs]
  cases href : s.credentialsRef with
  | none =>
    have hbare : s.bare = { s with tlsRefs := [] } := by
      unfold bare
      rw [← href]
    rw [hbare]
    rfl
  | some r =>
    have hcons : s.bare.followAll source (.credentials r :: s.tlsRefs.map .certs)
        = (Referral.credentials r).follow source s.bare >>= fun after =>
          after.followAll source (s.tlsRefs.map .certs) := List.foldlM_cons
    refine Eq.trans ?_ hcons.symm
    dsimp only [Referral.follow]
    rw [bind_assoc]
    refine congrArg _ (funext fun secret => ?_)
    rcases s.useCredentials_bare secret with ⟨e, hfull, hbare⟩ | ⟨after, hfull, htls, hbare⟩
    · rw [hfull, hbare]
      rfl
    · rw [hfull, hbare, ← htls]
      rfl

variable (source : Option SecretSource)

/-- Certificates are neither a user name nor a password nor a reference. -/
theorem foldl_certs (refs : List SecretRef) : ∀ s : AwxSettings,
    let after := (refs.map .certs).foldl (Referral.taken source) s
    after.username = s.username ∧ after.password = s.password ∧ after.references = s.references := by
  induction refs with
  | nil => exact fun _ => ⟨rfl, rfl, rfl⟩
  | cons r rest ih => exact fun s => ih ((Referral.certs r).taken source s)

/-- The settings with what all references lead to. -/
def settled (s : AwxSettings) : AwxSettings := s.references.foldl (Referral.taken source) s.bare

/-- **The user name and the password after all references**: what the reference to credentials
    leads to counts, value by value; no reference is left. -/
theorem settled_values (s : AwxSettings) :
    (s.settled source).username
      = (s.credentialsRef.bind (·.text? source "username")).getD s.username ∧
    (s.settled source).password
      = (s.credentialsRef.bind (·.text? source "password")).getD s.password ∧
    (s.settled source).references = [] := by
  unfold settled references
  rw [List.foldl_append]
  obtain ⟨huser, hpass, hrefs⟩ := foldl_certs source s.tlsRefs
    ((s.credentialsRef.toList.map .credentials).foldl (Referral.taken source) s.bare)
  rw [huser, hpass, ← references, hrefs]
  cases s.credentialsRef <;> exact ⟨rfl, rfl, rfl⟩

/-- Without references there is nothing to look up. -/
theorem resolve_of_references_eq_nil {s : AwxSettings} (h : s.references = [])
    (log : List (String × String)) : (s.resolve source).run.run log = (.ok s, log) := by
  have hbare : s.bare = s := by
    obtain ⟨hcredentials, hcerts⟩ := List.append_eq_nil_iff.mp h
    unfold bare
    rw [← List.map_eq_nil_iff.mp hcerts,
      ← Option.toList_eq_nil_iff.mp (List.map_eq_nil_iff.mp hcredentials)]
  rw [resolve_eq, h, hbare]
  rfl

/-- What comes of the references of settings. -/
theorem resolve_cases (s : AwxSettings) (log : List (String × String)) :
    ((∀ x ∈ s.references, ∀ e, ¬ x.Fault source e) ∧ (s.resolve source).run.run log
      = (.ok (s.settled source),
        (s.references.flatMap (·.secret.lookups source)).reverse ++ log)) ∨
    ∃ before x after e, s.references = before ++ x :: after ∧
      (∀ y ∈ before, ∀ e, ¬ y.Fault source e) ∧ x.Fault source e ∧
      (s.resolve source).run.run log
        = (.error e, ((before ++ [x]).flatMap (·.secret.lookups source)).reverse ++ log) := by
  rw [resolve_eq]
  exact followAll_cases source s.references s.bare log

end AwxSettings

/-- The references that files give: the last one to credentials, and all to certificates. -/
def SettingsFile.referrals (contents : List SettingsFile) : List Referral :=
  (lastOf (·.value? (·.credentialsRef)) contents).toList.map .credentials
    ++ (contents.filterMap (·.value? (·.tlsRef))).map .certs

/-- A value from the environment, or else from the secret that the last reference to credentials
    leads to, or else from the last file that gives it. -/
def SettingsFile.credential (contents : List SettingsFile) (source : Option SecretSource)
    (environment : String → Option String) (variable_ key : String)
    (field : AwxSection → Option String) : String :=
  (given (environment variable_)).getD <|
    ((lastOf (·.value? (·.credentialsRef)) contents).bind (·.text? source key)).getD <|
      (lastOf (·.text? field) contents).getD ""

/-- **Settings that have been loaded** from files, secrets and the environment. -/
structure Settings.Loaded (contents : List SettingsFile) (source : Option SecretSource)
    (environment : String → Option String) (loaded : Settings) : Prop where
  username : loaded.awx.username
    = SettingsFile.credential contents source environment "AWX_USERNAME" "username" (·.username)
  password : loaded.awx.password
    = SettingsFile.credential contents source environment "AWX_PASSWORD" "password" (·.password)
  /-- No reference is left. -/
  references : loaded.awx.credentialsRef = none ∧ loaded.awx.tlsRefs = []
  /-- Following the references again changes nothing and looks nothing up. -/
  again : ∀ other log, (loaded.awx.resolve other).run.run log = (.ok loaded.awx, log)

/-- **Settings are loaded in order.**  Take any paths, secrets and environment.

    - If there are no settings in the files, no secret is looked up.
    - If no reference that the files give is at fault, then of the user name and the password each
      comes from the environment, or else from the secret, or else from the files; and what is
      looked up are the secrets of the references, once for each.
    - Otherwise the first reference that is at fault tells why there are no settings, whatever the
      environment says, and no secret of a later one is looked up. -/
theorem Settings.load_in_order (fs : FileSystem) (paths : List String)
    (source : Option SecretSource) (environment : String → Option String) :
    let outcome := (Settings.load fs paths source environment).run.run []
    (∃ e, Settings.ofFiles fs paths = .error e ∧ outcome = (.error e, [])) ∨
    ∃ contents, List.Forall₂ (Says fs) (loadOrder fs paths) contents ∧
      (∃ s, Settings.ofFiles fs paths = .ok s) ∧
      (((∀ x ∈ SettingsFile.referrals contents, ∀ e, ¬ x.Fault source e) ∧
          ∃ loaded, Loaded contents source environment loaded ∧ outcome = (.ok loaded,
            ((SettingsFile.referrals contents).flatMap (·.secret.lookups source)).reverse)) ∨
        ∃ before x after e, SettingsFile.referrals contents = before ++ x :: after ∧
          (∀ y ∈ before, ∀ e, ¬ y.Fault source e) ∧ x.Fault source e ∧
          outcome = (.error e, ((before ++ [x]).flatMap (·.secret.lookups source)).reverse)) := by
  intro outcome
  have herror {e : SettingsError} (h : Settings.ofFiles fs paths = .error e) :
      outcome = (.error e, []) := by
    show (Settings.load fs paths source environment).run.run [] = _
    unfold Settings.load
    rw [h]
    rfl
  cases paths with
  | nil => exact Or.inl ⟨.noFiles, rfl, herror rfl⟩
  | cons path paths =>
    rcases mergeFiles_cases (loadOrder fs (path :: paths)) (.start fs) with
      ⟨-, contents, s, hsaid, hmerged, hok⟩ | ⟨_, _, _, e, -, -, -, hfail⟩
    case inr =>
      rw [← ofFiles_eq] at hfail
      exact Or.inl ⟨e, hfail, herror hfail⟩
    rw [← ofFiles_eq] at hok
    rw [List.nil_append] at hmerged
    have hreferences : s.awx.references = SettingsFile.referrals contents := by
      unfold AwxSettings.references SettingsFile.referrals
      rw [hmerged.credentialsRef, hmerged.tlsRefs]
    have hload : outcome = ((do
        let awx ← s.awx.resolve source
        pure { s with awx := awx.override environment }) : Lookup Settings).run.run [] := by
      show (Settings.load fs (path :: paths) source environment).run.run [] = _
      unfold Settings.load
      rw [hok]
      rfl
    refine Or.inr ⟨contents, hsaid, ⟨s, hok⟩, ?_⟩
    rw [← hreferences]
    rcases s.awx.resolve_cases source [] with ⟨hsound, hrun⟩ |
      ⟨before, x, after, e, hsplit, hbefore, hfault, hrun⟩
    case inr =>
      refine Or.inr ⟨before, x, after, e, hsplit, hbefore, hfault, ?_⟩
      rw [hload, Lookup.run_bind_of_error hrun, List.append_nil]
    obtain ⟨huser, hpass, hnone⟩ := s.awx.settled_values source
    rw [hmerged.credentialsRef, hmerged.username] at huser
    rw [hmerged.credentialsRef, hmerged.password] at hpass
    refine Or.inl ⟨hsound, { s with awx := (s.awx.settled source).override environment }, ?_, ?_⟩
    · -- the environment gives no reference
      have hleft : ((s.awx.settled source).override environment).references = [] := hnone
      obtain ⟨hcredentials, hcerts⟩ := List.append_eq_nil_iff.mp hleft
      exact {
        username := congrArg (given (environment usernameVariable)).getD huser
        password := congrArg (given (environment passwordVariable)).getD hpass
        references := ⟨Option.toList_eq_nil_iff.mp (List.map_eq_nil_iff.mp hcredentials),
          List.map_eq_nil_iff.mp hcerts⟩
        again := fun other log => AwxSettings.resolve_of_references_eq_nil other hleft log }
    · rw [hload, Lookup.run_bind hrun, List.append_nil]
      rfl

end Healing
