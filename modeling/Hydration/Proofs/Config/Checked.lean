/-
A configuration in its effective form, and the list of its faults.

# Two passes over the names

One pass trims the names and drops the blank ones, the other walks along them with the names it has seen
and reports what is wrong with each. The second only ever asks whether a name that is not blank has been
seen. So it does not matter to it whether blank names are among those seen (`SeenAlike`), and with this
as the invariant both comparisons are one induction: with the faults told entry by entry
(`namesFaults_eq`), and with those of the names that the first pass leaves (`namesFaults_filter`).

# Who is accepted

Nothing is reported exactly of a configuration that is `Acceptable`. Reading a file and starting a service
bring the configuration into its effective form and then report the first fault, so both accept the same
ones.
-/
import Hydration.Config.Load
import Hydration.Proofs.Agreement.Rules
import Hydration.Proofs.Text.Cut
import Hydration.Service.Basic

namespace Hydration

-- ============================================================ the effective form

/-- Names that neither begin nor end in blanks and of which none is blank. -/
def Config.HasPlainNames (config : Config) : Prop :=
  ∀ name ∈ config.crawlers, Text.trim name = name ∧ name.isEmpty = false

instance (config : Config) : Decidable config.HasPlainNames :=
  inferInstanceAs (Decidable (∀ name ∈ config.crawlers, Text.trim name = name ∧ name.isEmpty = false))

/-- Such names are in force as they are. -/
theorem Config.HasPlainNames.effective_eq {config : Config} (h : config.HasPlainNames) :
    config.effective = config := by
  have htrimmed : config.crawlers.map Text.trim = config.crawlers := by
    rw [List.map_congr_left fun name hname => (h name hname).1]
    exact List.map_id _
  have hkept : config.crawlers.filter (fun name => !name.isEmpty) = config.crawlers :=
    List.filter_eq_self.2 fun name hname => by rw [(h name hname).2]; rfl
  unfold effective
  rw [htrimmed, hkept]

namespace Config

theorem hasPlainNames_effective (config : Config) : config.effective.HasPlainNames := by
  intro name hname
  obtain ⟨hmem, hkept⟩ := List.mem_filter.1 hname
  obtain ⟨entry, -, rfl⟩ := List.mem_map.1 hmem
  exact ⟨Text.trim_trim entry, by simpa using hkept⟩

theorem map_trim_effective (config : Config) :
    config.effective.crawlers.map Text.trim = config.effective.crawlers := by
  rw [List.map_congr_left fun name hname => (config.hasPlainNames_effective name hname).1]
  exact List.map_id _

-- ============================================================ names that were seen

section

variable {seen seen' names : List String} {name : String}

/-- The same names have been seen, blank ones apart. -/
def SeenAlike (seen seen' : List String) : Prop := ∀ name, name ≠ "" → (name ∈ seen ↔ name ∈ seen')

theorem SeenAlike.cons (h : SeenAlike seen seen') (name : String) :
    SeenAlike (name :: seen) (name :: seen') := by
  intro other hother
  simp only [List.mem_cons, h other hother]

theorem SeenAlike.blank (h : SeenAlike seen seen') : SeenAlike seen ("" :: seen') := by
  intro other hother
  simp only [List.mem_cons, hother, false_or, h other hother]

theorem nameFaults_blank (seen : List String) : nameFaults seen "" = [.blankName] := rfl

/-- A name that is not blank may be too long, and then it may have been seen. -/
theorem nameFaults_name (hname : name ≠ "") :
    nameFaults seen name =
      (if maxNameBytes < name.utf8ByteSize then [.longName name] else []) ++
        (if name ∈ seen then [.repeatedName name] else []) := by
  unfold nameFaults
  rw [if_neg (by simpa using hname)]
  simp only [List.contains_iff_mem]

theorem nameFaults_congr (h : SeenAlike seen seen') (name : String) :
    nameFaults seen name = nameFaults seen' name := by
  by_cases hname : name = ""
  · rw [hname, nameFaults_blank, nameFaults_blank]
  · rw [nameFaults_name hname, nameFaults_name hname, if_congr (h name hname) rfl rfl]

theorem blankName_not_mem (hname : name ≠ "") : .blankName ∉ nameFaults seen name := by
  rw [nameFaults_name hname]
  intro hmem
  rcases List.mem_append.1 hmem with hmem | hmem
  · split at hmem <;> simp at hmem
  · split at hmem <;> simp at hmem

theorem nameFaults_eq_nil_iff :
    nameFaults seen name = [] ↔ name ≠ "" ∧ name.utf8ByteSize ≤ maxNameBytes ∧ name ∉ seen := by
  by_cases hname : name = ""
  · rw [hname, nameFaults_blank]
    simp
  · rw [nameFaults_name hname]
    simp [hname]

theorem namesFaults_eq_nil_iff :
    namesFaults seen names = [] ↔
      names.Nodup ∧ ∀ name ∈ names, name ≠ "" ∧ name.utf8ByteSize ≤ maxNameBytes ∧ name ∉ seen := by
  induction names generalizing seen with
  | nil => simp [namesFaults]
  | cons first rest ih =>
      unfold namesFaults
      rw [List.append_eq_nil_iff, nameFaults_eq_nil_iff, ih, List.nodup_cons, List.forall_mem_cons]
      simp only [List.mem_cons, not_or]
      constructor
      · intro h
        obtain ⟨hfirst, hnodup, hrest⟩ := h
        refine ⟨⟨?_, hnodup⟩, hfirst, ?_⟩
        · intro hmem
          exact (hrest first hmem).2.2.1 rfl
        · intro name hname
          obtain ⟨hne, hsize, -, hseen⟩ := hrest name hname
          exact ⟨hne, hsize, hseen⟩
      · intro h
        obtain ⟨⟨hnew, hnodup⟩, hfirst, hrest⟩ := h
        refine ⟨hfirst, hnodup, ?_⟩
        intro name hname
        obtain ⟨hne, hsize, hseen⟩ := hrest name hname
        refine ⟨hne, hsize, ?_, hseen⟩
        intro hsame
        exact hnew (hsame ▸ hname)

/-- Without its blank names a list has the same faults, except that they were blank. -/
theorem namesFaults_filter (h : SeenAlike seen seen') (names : List String) :
    namesFaults seen (names.filter fun name => !name.isEmpty) =
      (namesFaults seen' names).filter (· ≠ .blankName) := by
  induction names generalizing seen seen' with
  | nil => rfl
  | cons name rest ih =>
      by_cases hname : name = ""
      · subst hname
        rw [namesFaults, nameFaults_blank, List.singleton_append, List.filter_cons_of_neg (by simp),
          List.filter_cons_of_neg (by simp), ih h.blank]
      · have hrest := ih (h.cons name)
        have hkept : (nameFaults seen' name).filter (· ≠ .blankName) = nameFaults seen' name := by
          refine List.filter_eq_self.2 ?_
          intro fault hfault
          rw [decide_eq_true_eq]
          intro hblank
          exact blankName_not_mem hname (hblank ▸ hfault)
        rw [List.filter_cons_of_pos (by simpa using hname)]
        unfold namesFaults
        rw [List.filter_append, hkept, nameFaults_congr h, hrest]

end

-- ============================================================ entry by entry

/-- What is wrong with an entry of the list of crawlers, given the entries in front of it. -/
def entryFaults (before : List String) (entry : String) : List ConfigFault :=
  if Text.isAllBlank entry then [.blankName]
  else
    (if 16 < (Text.trim entry).utf8ByteSize then [.longName (Text.trim entry)] else []) ++
      (if ∃ earlier ∈ before, Text.trim earlier = Text.trim entry then
        [.repeatedName (Text.trim entry)]
      else [])

/-- An interval of no length is one fault. -/
def intervalFaults (config : Config) : List ConfigFault :=
  (if config.requestPoll.nanos = 0 then [.zeroSpan .requestPoll] else []) ++
    (if config.drainPoll.nanos = 0 then [.zeroSpan .drainPoll] else [])

theorem nameFaults_trim {seen before : List String} (h : SeenAlike seen (before.map Text.trim))
    (entry : String) : nameFaults seen (Text.trim entry) = entryFaults before entry := by
  unfold entryFaults
  by_cases hblank : Text.isAllBlank entry = true
  · rw [if_pos hblank, Text.trim_eq_empty_iff.2 hblank, nameFaults_blank]
  · have hname : Text.trim entry ≠ "" := by
      intro hempty
      exact hblank (Text.trim_eq_empty_iff.1 hempty)
    rw [if_neg hblank, nameFaults_name hname]
    congr 1
    exact if_congr ((h _ hname).trans List.mem_map) rfl rfl

/-- The names seen are those of the entries in front. -/
theorem namesFaults_eq {seen before : List String} (h : SeenAlike seen (before.map Text.trim))
    (rest : List String) :
    namesFaults seen (rest.map Text.trim) =
      (rest.zipIdx before.length).flatMap fun p => entryFaults ((before ++ rest).take p.2) p.1 := by
  induction rest generalizing seen before with
  | nil => rfl
  | cons entry rest ih =>
      have hseen : SeenAlike (Text.trim entry :: seen) ((before ++ [entry]).map Text.trim) := by
        intro name hname
        rw [List.map_append, List.mem_append, List.mem_cons, h name hname]
        simp [or_comm]
      have hrest := ih hseen
      rw [List.length_append, List.length_singleton, List.append_assoc, List.singleton_append] at hrest
      rw [List.map_cons, List.zipIdx_cons, List.flatMap_cons, namesFaults, hrest, nameFaults_trim h,
        List.take_left]

theorem faults_eq (config : Config) :
    config.faults =
      (config.crawlers.zipIdx.flatMap fun p => entryFaults (config.crawlers.take p.2) p.1) ++
        config.intervalFaults := by
  have hseen : SeenAlike [] ([].map Text.trim) := fun _ _ => Iff.rfl
  have hnames := namesFaults_eq hseen config.crawlers
  rw [List.length_nil, List.nil_append] at hnames
  have hspan : ∀ (field : Field) (span : Span),
      spanFaults field span = if span.nanos = 0 then [.zeroSpan field] else [] := by
    intro field span
    simp [spanFaults, Span.isZero]
  unfold faults intervalFaults
  rw [hnames, hspan, hspan, List.append_assoc]

example : ({ Config.standard with crawlers := ["mds ", " ", "\tmds"] } : Config).faults =
    [.blankName, .repeatedName "mds"] := by
  decide

-- ============================================================ who is accepted

/-- A configuration with which a service can run. -/
structure Acceptable (config : Config) : Prop where
  distinct : (config.crawlers.map Text.trim).Nodup
  sized : ∀ name ∈ config.crawlers.map Text.trim, 1 ≤ name.utf8ByteSize ∧ name.utf8ByteSize ≤ 16
  requestPoll : config.requestPoll.nanos ≠ 0
  drainPoll : config.drainPoll.nanos ≠ 0

theorem intervalFaults_eq_nil_iff {config : Config} :
    config.intervalFaults = [] ↔ config.requestPoll.nanos ≠ 0 ∧ config.drainPoll.nanos ≠ 0 := by
  simp [intervalFaults]

theorem faults_eq_nil_iff {config : Config} : config.faults = [] ↔ config.Acceptable := by
  have hsized : ∀ name : String,
      (name ≠ "" ∧ name.utf8ByteSize ≤ maxNameBytes ∧ name ∉ []) ↔
        (1 ≤ name.utf8ByteSize ∧ name.utf8ByteSize ≤ 16) := by
    intro name
    rw [Nat.one_le_iff_ne_zero, Ne, Ne, String.utf8ByteSize_eq_zero_iff]
    simp [maxNameBytes]
  have hspans : config.faults = [] ↔
      namesFaults [] (config.crawlers.map Text.trim) = [] ∧ config.intervalFaults = [] := by
    simp [faults, intervalFaults, spanFaults, Span.isZero]
  rw [hspans, namesFaults_eq_nil_iff, intervalFaults_eq_nil_iff]
  simp only [hsized]
  constructor
  · intro h
    obtain ⟨⟨hdistinct, hnames⟩, hrequest, hdrain⟩ := h
    exact ⟨hdistinct, hnames, hrequest, hdrain⟩
  · intro h
    exact ⟨⟨h.distinct, h.sized⟩, h.requestPoll, h.drainPoll⟩

theorem faults_effective (config : Config) :
    config.effective.faults = config.faults.filter (· ≠ .blankName) := by
  have hnames : namesFaults [] (config.effective.crawlers.map Text.trim) =
      (namesFaults [] (config.crawlers.map Text.trim)).filter (· ≠ .blankName) := by
    rw [map_trim_effective]
    exact namesFaults_filter (fun _ _ => Iff.rfl) _
  have hspan : ∀ (field : Field) (span : Span),
      (spanFaults field span).filter (· ≠ .blankName) = spanFaults field span := by
    intro field span
    unfold spanFaults
    split <;> rfl
  unfold faults
  rw [hnames, List.filter_append, List.filter_append, hspan, hspan]
  rfl

theorem check_ok {config checked : Config} (h : config.check = .ok checked) : checked = config := by
  unfold check at h
  split at h
  · exact (Except.ok.inj h).symm
  · cases h

theorem check_ok_iff {config checked : Config} :
    config.check = .ok checked ↔ config.Acceptable ∧ checked = config := by
  rw [← faults_eq_nil_iff]
  unfold check
  cases config.faults with
  | nil => simp [eq_comm]
  | cons fault rest => simp

theorem check_error_iff {config : Config} {fault : ConfigFault} :
    config.check = .error fault ↔ config.faults.head? = some fault := by
  unfold check
  cases config.faults with
  | nil => simp
  | cons first rest => simp

/-- A configuration is accepted, or its first fault is reported. -/
theorem check_cases (config : Config) :
    (config.Acceptable ∧ config.check = .ok config) ∨
      ∃ fault, config.faults.head? = some fault ∧ config.check = .error fault := by
  cases hcheck : config.check with
  | ok checked =>
      obtain ⟨hacceptable, rfl⟩ := check_ok_iff.1 hcheck
      exact .inl ⟨hacceptable, rfl⟩
  | error fault => exact .inr ⟨fault, check_error_iff.1 hcheck, rfl⟩

end Config

/-- Names that differ are as many crawlers. -/
theorem Crawlers.size_ofList {names : List String} (h : names.Nodup) :
    (Crawlers.ofList names).size = names.length := by
  induction names with
  | nil => rfl
  | cons first rest ih =>
      obtain ⟨hnew, hrest⟩ := List.nodup_cons.1 h
      have hfresh : first ∉ (Crawlers.ofList rest).names := by
        rw [← List.contains_iff_mem]
        show ¬ (Crawlers.ofList rest).contains first = true
        rw [contains_ofList, List.contains_iff_mem]
        exact hnew
      show ((Crawlers.ofList rest).insert first).size = _
      unfold insert
      rw [dif_neg hfresh]
      show (Crawlers.ofList rest).size + 1 = _
      rw [ih hrest, List.length_cons]

-- ============================================================ the result

/-- What a configuration is worth, in itself and in its effective form. -/
structure Config.Vetted (config : Config) : Prop where
  /-- The effective form is its own. -/
  again : config.effective.effective = config.effective
  /-- It has the same faults, except that no name is blank. -/
  cleared : config.effective.faults = config.faults.filter (· ≠ .blankName)
  /-- The faults of the entries in their order, and then those of the intervals. -/
  listed : config.faults =
    (config.crawlers.zipIdx.flatMap fun p => entryFaults (config.crawlers.take p.2) p.1) ++
      config.intervalFaults
  passes : config.effective.check = .ok config.effective ↔ config.effective.Acceptable
  /-- Every name of an acceptable configuration is a crawler of its own, and nothing else is one. -/
  crawlers : config.effective.Acceptable →
    (Crawlers.ofConfig config.effective).size = config.effective.crawlers.length ∧
      ∀ name, (Crawlers.ofConfig config.effective).contains name = true ↔
        name ∈ config.effective.crawlers
  /-- A file with this configuration is loaded, or the first fault is reported. -/
  loaded : ∀ (env : Environment) (content : FileContent), ofFile env content = .ok config →
    (config.effective.Acceptable ∧ load env content = .ok config.effective) ∨
      ∃ fault, config.effective.faults.head? = some fault ∧ load env content = .error fault
  /-- And so a service starts with it among others who let it, or reports this fault and touches nothing. -/
  started : ∀ {σ : Type} (premises : Premises σ) (world : σ),
    (premises.init world).1 = .ok () → (premises.listen (premises.init world).2).1 = .ok () →
      (config.effective.Acceptable ∧ Service.start premises config world =
        (.ok ⟨.ofConfig config.effective, true⟩, (premises.listen (premises.init world).2).2)) ∨
      ∃ fault, config.effective.faults.head? = some fault ∧
        Service.start premises config world = (.error (.config fault), world)

/-- Bringing a configuration into its effective form and checking it fit together: the check reports
each entry for what it is, and neither of the two ways to use a configuration sees more or less of it. -/
theorem Config.vetted_alike (config : Config) : config.Vetted where
  again := config.hasPlainNames_effective.effective_eq
  cleared := config.faults_effective
  listed := config.faults_eq
  passes := check_ok_iff.trans (and_iff_left rfl)
  crawlers := by
    intro hacceptable
    have hdistinct := hacceptable.distinct
    rw [map_trim_effective] at hdistinct
    refine ⟨Crawlers.size_ofList hdistinct, ?_⟩
    intro name
    rw [Crawlers.ofConfig, Crawlers.contains_ofList, List.contains_iff_mem]
  loaded := by
    intro env content hcontent
    unfold load
    rw [hcontent]
    exact config.effective.check_cases
  started := by
    intro σ premises world hinit hlisten
    unfold Service.start
    rcases config.effective.check_cases with ⟨hacceptable, hcheck⟩ | ⟨fault, hfault, hcheck⟩
    · left
      refine ⟨hacceptable, ?_⟩
      rw [hcheck]
      rcases hset : premises.init world with ⟨result, inited⟩
      rw [hset] at hinit hlisten
      obtain rfl := hinit
      dsimp only at hlisten ⊢
      rcases htaken : premises.listen inited with ⟨result, listening⟩
      rw [htaken] at hlisten
      obtain rfl := hlisten
      rfl
    · right
      refine ⟨fault, hfault, ?_⟩
      rw [hcheck]

end Hydration
