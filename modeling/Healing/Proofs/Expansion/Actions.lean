/-
  Expansion of actions.

  The texts of an AWX job are expanded in order, in place: a text that fails leaves the texts before
  it expanded.  A batch job is expanded in its JSON form and read again, and it changes as a whole
  or not at all.  Reading again is not quite the identity: a time is read from any spelling, and
  then it is written in the usual one (`Respelled`).

  1. **AWX jobs** - `AwxJob.texts` and `AwxJob.outline` make up a job (`AwxJob.ext_texts`), and
     `AwxJob.expand_inOrder`.
  2. **Batch jobs** - `Kubernetes.Job.expand_cases`.
  3. **Actions** - `Action.expanded_in_order`.
-/
import Healing.Action
import Healing.Proofs.Kubernetes.Job
import Mathlib.Data.List.Forall2

namespace Healing

variable {render : String → Except ExpansionError String}

/-! ## AWX jobs -/

namespace AwxJob

/-- The texts of a job, in order. -/
def texts (j : AwxJob) : List String := j.template :: (j.extraVars.texts ++ j.limit.toList)

/-- A job without its texts. -/
def outline (j : AwxJob) : AwxJob where
  template := ""
  extraVars := j.extraVars.outline
  limit := j.limit.map fun _ => ""

/-- **A job is what its outline and its texts say.** -/
theorem ext_texts {j k : AwxJob} (houtline : j.outline = k.outline) (htexts : j.texts = k.texts) :
    j = k := by
  obtain ⟨template, extraVars, limit⟩ := j
  obtain ⟨template', extraVars', limit'⟩ := k
  obtain ⟨-, hvars, hlimit⟩ := AwxJob.mk.inj houtline
  obtain ⟨rfl, hrest⟩ := List.cons.inj htexts
  obtain ⟨hvarsTexts, hlimitTexts⟩ :=
    List.append_inj hrest (Json.length_texts_of_outline hvars)
  obtain rfl := Json.ext_texts _ _ hvars hvarsTexts
  have hsame : limit = limit' := by
    cases limit <;> cases limit' <;> cases hlimitTexts <;> rfl
  rw [hsame]

/-- A text that may be absent is rendered if it is there. -/
theorem expandOption_inOrder (o : Option String) :
    (expandOption (Walk.ofText render) o).InOrder render Option.toList (·.map fun _ => "") o := by
  cases o with
  | none => exact ⟨.all .nil, rfl⟩
  | some s => exact (Walk.inOrder_ofText s).map (fun _ => rfl) fun _ _ _ => rfl

/-- **The template, the variables and the limit are expanded in this order.** -/
theorem expand_inOrder (j : AwxJob) : (j.expand render).InOrder render texts outline j := by
  obtain ⟨template, extraVars, limit⟩ := j
  have htemplate : (Walk.ofText render template).InOrder .. := Walk.inOrder_ofText template
  have hvars : (extraVars.expand render).InOrder .. := extraVars.expand_inOrder
  have hlimit : (expandOption (Walk.ofText render) limit).InOrder .. := expandOption_inOrder limit
  -- each walk is only taken if the one before has reached its end
  unfold expand
  generalize Walk.ofText render template = w at htemplate ⊢
  obtain ⟨template', _ | e⟩ := w
  case some =>
    exact ⟨htemplate.rendered.append_later (extraVars.texts ++ limit.toList), rfl⟩
  dsimp only
  generalize extraVars.expand render = w at hvars ⊢
  obtain ⟨extraVars', _ | e⟩ := w
  case some =>
    refine ⟨htemplate.rendered.append (hvars.rendered.append_later limit.toList), ?_⟩
    exact congrArg (AwxJob.mk "" · _) hvars.kept
  generalize expandOption (Walk.ofText render) limit = w at hlimit ⊢
  refine ⟨htemplate.rendered.append (hvars.rendered.append hlimit.rendered), ?_⟩
  exact congrArg₂ (AwxJob.mk "") hvars.kept hlimit.kept

end AwxJob

/-! ## Batch jobs -/

namespace Kubernetes.Job

/-- **What comes of a batch job**: it is left as it is if a text fails, or if it is no job any more;
    otherwise its JSON form is the expanded one, with the times as they are written. -/
theorem expand_cases {j : Job} (fits : j.Fits) :
    let w := j.toJson.expand render
    (∀ e, w.stopped = some e → j.expand render = ⟨j, some e⟩) ∧
      (w.stopped = none →
        (∃ after, read (.ofJson w.value) = .ok after ∧ after.Fits ∧
          after.toJson = shape.respell w.value ∧ j.expand render = ⟨after, none⟩) ∨
        ∃ e, read (.ofJson w.value) = .error e ∧ j.expand render = ⟨j, some .conversion⟩) := by
  intro w
  have hw : j.toJson.expand render = w := rfl
  have hkept : w.value.outline = j.toJson.outline := (Json.expand_inOrder j.toJson).kept
  unfold expand
  simp only [hw]
  refine ⟨fun e he => ?_, fun hnone => ?_⟩
  · rw [he]
  · rw [hnone]
    cases hread : read (.ofJson w.value) with
    | error e => exact Or.inr ⟨e, rfl, rfl⟩
    | ok after =>
      obtain ⟨version, kind, metadata, spec, status, hparts, hmetadata, hspec, hstatus⟩ :=
        exists_of_outline fits hkept
      refine Or.inl ⟨after, rfl, fits_of_read (Document.plain_ofJson _) hread, ?_, rfl⟩
      rw [hparts] at hread ⊢
      exact toJson_of_read hspec hstatus hmetadata hread

end Kubernetes.Job

/-! ## Actions -/

/-- An action fails to expand because of one of its texts, or because it has lost its type. -/
theorem Action.cause_of_expand {action : Action} {e : ExpansionError}
    (h : (action.expand render).stopped = some e) :
    e = .conversion ∨ ∃ s, render s = .error e := by
  cases action with
  | awx job => exact .inr (job.expand_inOrder.exists_of_stopped h)
  | batch job =>
    change (job.expand render).stopped = some e at h
    unfold Kubernetes.Job.expand at h
    dsimp only at h
    split at h
    · rename_i cause hstop
      cases h
      exact .inr ((Json.expand_inOrder job.toJson).exists_of_stopped hstop)
    · split at h
      · cases h
      · cases h
        exact .inl rfl

/-- **Actions are expanded in order.**

    - The texts of a value, and those of an AWX job, are rendered one after the other; the first one
      that fails tells why the expansion has failed, and it and the texts behind it stay as they
      were.  Nothing but texts changes, and texts and outline are all there is to a value.
    - A batch job is left alone if a text of its JSON form fails, or if the expanded JSON form is no
      job any more.  Otherwise it becomes the job that is read from there: its JSON form is the
      expanded one, except that times are written in the usual way. -/
theorem Action.expanded_in_order (render : String → Except ExpansionError String) :
    (∀ j : Json, (j.expand render).InOrder render Json.texts Json.outline j) ∧
    (∀ j k : Json, j.outline = k.outline → j.texts = k.texts → j = k) ∧
    (∀ job : AwxJob, (job.expand render).InOrder render AwxJob.texts AwxJob.outline job) ∧
    (∀ j k : AwxJob, j.outline = k.outline → j.texts = k.texts → j = k) ∧
    ∀ job : Kubernetes.Job, job.Fits →
      let w := job.toJson.expand render
      (∀ e, w.stopped = some e → job.expand render = ⟨job, some e⟩) ∧
      (w.stopped = none →
        (∃ after, Kubernetes.Job.read (.ofJson w.value) = .ok after ∧ after.Fits ∧
          after.toJson = Kubernetes.Job.shape.respell w.value ∧
          job.expand render = ⟨after, none⟩) ∨
        ∃ e, Kubernetes.Job.read (.ofJson w.value) = .error e ∧
          job.expand render = ⟨job, some .conversion⟩) :=
  ⟨fun j => j.expand_inOrder, fun j => j.ext_texts, fun job => job.expand_inOrder,
    fun _ _ => AwxJob.ext_texts, fun _ => Kubernetes.Job.expand_cases⟩

namespace Respelled

/-- Marks that occur in a time. -/
def binding : Binding where
  delimiters := { left := "01", right := "10" }
  context := .obj [("T", .str "01t10")]

/-- The JSON form of a job with the given time. -/
def form (time : String) : Json :=
  .obj [("apiVersion", .str "batch/v1"), ("kind", .str "Job"),
    ("metadata", .obj [("creationTimestamp", .str time), ("name", .str "x")])]

/-- A job with a time. -/
def job : Kubernetes.Job where
  metadata := .ofList [("creationTimestamp", .str "2020-02-01T10:20:30Z"), ("name", .str "x")]

/-- A job with the given time. -/
def timed (time : String) : Kubernetes.Job where
  metadata :=
    { entries := [("creationTimestamp", .str time), ("name", .str "x")]
      sorted := List.pairwise_pair.mpr (by dsimp only; decide) }

theorem job_eq : job = timed "2020-02-01T10:20:30Z" :=
  congrArg (Kubernetes.Job.mk · none none) (KeyMap.ofList_entries (timed _).metadata)

theorem fits_timed (time : String) : (timed time).Fits := by
  refine .ofMetadata (List.forall_mem_cons.mpr ⟨?_, List.forall_mem_singleton.mpr ?_⟩)
  · exact ⟨_, rfl, .time time⟩
  · exact ⟨_, rfl, .text "x"⟩

/-- The job is read from its JSON form with any spelling of its time. -/
theorem read_of_time {time : String}
    (hread : (Kubernetes.Job.read (.ofJson (form time))).isOk = true)
    (hspelled : Kubernetes.Shape.respellTime time = "2020-02-01T10:20:30Z") :
    Kubernetes.Job.read (.ofJson (form time)) = .ok job := by
  have hform : (timed time).toJson = form time := rfl
  have hrespell : Kubernetes.Job.shape.respell (form time)
      = form (Kubernetes.Shape.respellTime time) := rfl
  rw [job_eq, ← hform]
  refine Kubernetes.Job.read_toJson (fits_timed time) ?_ ?_
  · rw [hform]
    exact hread
  · rw [hform, hrespell, hspelled]
    rfl

theorem read_form : Kubernetes.Job.read (.ofJson (form "2020-02-01T10:20:30Z")) = .ok job :=
  read_of_time (by decide +kernel) (by decide +kernel)

theorem read_expanded : Kubernetes.Job.read (.ofJson (form "2020-02-01t10:20:30Z")) = .ok job :=
  read_of_time (by decide +kernel) (by decide +kernel)

theorem expand_form :
    job.toJson.expand binding.render = ⟨form "2020-02-01t10:20:30Z", none⟩ := by
  have htime : binding.render "2020-02-01T10:20:30Z" = .ok "2020-02-01t10:20:30Z" := by
    decide +kernel
  have hothers : ∀ s ∈ ["batch/v1", "Job", "x"], binding.render s = .ok s := by decide +kernel
  simp only [List.forall_mem_cons] at hothers
  obtain ⟨hversion, hkind, hname, -⟩ := hothers
  change (form "2020-02-01T10:20:30Z").expand binding.render = _
  simp [form, Json.expand, Json.expandFields, Walk.ofText, Walk.map, Walk.cons, hversion, hkind,
    hname, htime]

/-- The job whose time is expanded to another spelling of it is read again. -/
theorem expanded_in_order_of_time : job.Fits ∧ job.expand binding.render = ⟨job, none⟩ ∧
    job.toJson = Kubernetes.Job.shape.respell (form "2020-02-01t10:20:30Z") := by
  have fits : job.Fits := job_eq ▸ fits_timed _
  obtain ⟨-, -, -, -, hbatch⟩ := Action.expanded_in_order binding.render
  obtain ⟨-, hread⟩ := hbatch job fits
  rw [expand_form] at hread
  rcases hread rfl with ⟨after, hafter, -, hform, hexpand⟩ | ⟨e, herror, -⟩
  · obtain rfl := Except.ok.inj (read_expanded.symm.trans hafter)
    exact ⟨fits, hexpand, hform⟩
  · cases read_expanded.symm.trans herror

/-- It stays as it was, so its JSON form is not the expanded one. -/
theorem not_expanded_form :
    Kubernetes.Job.read (.ofJson (form "2020-02-01T10:20:30Z")) = .ok job ∧
      job.toJson = form "2020-02-01T10:20:30Z" ∧
      job.toJson.expand binding.render = ⟨form "2020-02-01t10:20:30Z", none⟩ ∧
      (job.expand binding.render).stopped = none ∧
      (job.expand binding.render).value.toJson ≠ (job.toJson.expand binding.render).value := by
  have hform : job.toJson = form "2020-02-01T10:20:30Z" := rfl
  have hjob : job.expand binding.render = ⟨job, none⟩ :=
    Kubernetes.Job.expand_eq expand_form read_expanded
  refine ⟨read_form, hform, expand_form, by rw [hjob], ?_⟩
  rw [hjob, expand_form, hform]
  simp [form]

end Respelled

end Healing
