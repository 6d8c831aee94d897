/-
Paths by their names. A path is written as its names with one separator before each, and then a root
contains exactly the paths whose names begin with its own: `/repo2` does not lie in `/repo`, since a name
ends where the next separator stands (`Name.cut_unique`).

# A separator too much

A root may be written with one separator more at the end, as `/repo/`. It contains the same paths but for
its own, which is shorter than the root is written (`RootSpelling.Contains`). The root of all paths is
written as this separator alone, and contains every path, its own included.

# Taken apart

What is left behind a root is the names that follow (`RootSpelling.relative_append`). That the names of
the root come first wherever its text does is the induction over them (`exists_append_of_slashed`).
-/
import Hydration.Proofs.Roots.Innermost

namespace Hydration.Path

-- ============================================================ names

/-- One name in a path. -/
structure Name where
  text : String
  text_ne : text ≠ ""
  separator_notMem : '/' ∉ text.toList
deriving DecidableEq

/-- Names with one separator between them. -/
def joined (names : List Name) : String := "/".intercalate (names.map (·.text))

/-- The path to an object through directories with these names; without any it is the separator. -/
def ofNames (names : List Name) : String := "/" ++ joined names

/-- A way to write a root: as any path, or with one separator more at the end, unless it is the root of
all paths. -/
structure RootSpelling where
  names : List Name
  trailing : Bool
  names_ne : trailing = true → names ≠ []

namespace RootSpelling

def text (root : RootSpelling) : String :=
  ofNames root.names ++ if root.trailing then "/" else ""

/-- A root that is written as any path. -/
def plain (names : List Name) : RootSpelling where
  names := names
  trailing := false
  names_ne := nofun

@[simp]
theorem text_plain (names : List Name) : (plain names).text = ofNames names := by
  simp [plain, text]

/-- The names of the root come first in the path; if the root has a separator too much, others follow. -/
def Contains (root : RootSpelling) (path : List Name) : Prop :=
  root.names <+: path ∧ (root.trailing = true → path ≠ root.names)

end RootSpelling

namespace Name

/-- A name begins with some character, which is no separator. -/
theorem exists_cons (name : Name) : ∃ c rest, name.text.toList = c :: rest ∧ c ≠ '/' := by
  obtain ⟨c, rest, h⟩ := List.exists_cons_of_ne_nil (mt String.toList_eq_nil_iff.1 name.text_ne)
  refine ⟨c, rest, h, ?_⟩
  rintro rfl
  apply name.separator_notMem
  rw [h]
  exact List.mem_cons_self ..

theorem getLast?_ne (name : Name) : name.text.toList.getLast? ≠ some '/' := by
  intro h
  exact name.separator_notMem (List.mem_of_getLast? h)

/-- A name ends where nothing or a separator follows. -/
theorem cut (name : Name) {tail : List Char} (h : tail = [] ∨ tail.head? = some '/') :
    (name.text.toList ++ tail).takeWhile (· ≠ '/') = name.text.toList ∧
      (name.text.toList ++ tail).dropWhile (· ≠ '/') = tail := by
  refine Text.cut_iff.2 ⟨rfl, ?_, ?_⟩
  · intro c hc
    rw [decide_eq_true_eq]
    rintro rfl
    exact name.separator_notMem hc
  · intro c hc
    rcases h with rfl | h
    · cases hc
    · cases h.symm.trans hc
      rfl

theorem cut_unique {name other : Name} {tail rest : List Char}
    (happend : name.text.toList ++ tail = other.text.toList ++ rest)
    (htail : tail = [] ∨ tail.head? = some '/') (hrest : rest = [] ∨ rest.head? = some '/') :
    name = other ∧ tail = rest := by
  obtain ⟨hname, htail⟩ := name.cut htail
  obtain ⟨hother, hrest⟩ := other.cut hrest
  rw [happend, hother] at hname
  rw [happend, hrest] at htail
  refine ⟨?_, htail.symm⟩
  obtain ⟨text, _, _⟩ := name
  obtain ⟨otherText, _, _⟩ := other
  cases String.toList_inj.1 hname
  rfl

end Name

-- ============================================================ names with separators before them

/-- Names with one separator before each. -/
def slashed (names : List Name) : List Char := names.flatMap fun name => '/' :: name.text.toList

@[simp]
theorem slashed_nil : slashed [] = [] := rfl

@[simp]
theorem slashed_cons (name : Name) (names : List Name) :
    slashed (name :: names) = '/' :: (name.text.toList ++ slashed names) := rfl

@[simp]
theorem slashed_append (names others : List Name) :
    slashed (names ++ others) = slashed names ++ slashed others :=
  List.flatMap_append

theorem slashed_eq_nil_iff {names : List Name} : slashed names = [] ↔ names = [] := by
  cases names <;> simp

theorem slashed_begins (names : List Name) : slashed names = [] ∨ (slashed names).head? = some '/' := by
  cases names with
  | nil => exact .inl rfl
  | cons name names => exact .inr rfl

theorem getLast?_slashed_ne (names : List Name) : (slashed names).getLast? ≠ some '/' := by
  rcases List.eq_nil_or_concat names with rfl | ⟨front, last, rfl⟩
  · simp
  · obtain ⟨c, rest, htext, -⟩ := last.exists_cons
    have hlast := last.getLast?_ne
    rw [htext] at hlast
    simpa [htext] using hlast

theorem slashed_eq_joined {names : List Name} (h : names ≠ []) :
    slashed names = '/' :: (joined names).toList := by
  induction names with
  | nil => exact absurd rfl h
  | cons name rest ih =>
      cases rest with
      | nil => simp [joined]
      | cons next rest =>
          rw [slashed_cons, ih (List.cons_ne_nil next rest)]
          simp [joined]

theorem toList_ofNames {names : List Name} (h : names ≠ []) : (ofNames names).toList = slashed names := by
  rw [slashed_eq_joined h]
  simp [ofNames]

theorem toList_ofNames_nil : (ofNames []).toList = ['/'] := by
  simp [ofNames, joined]

/-- Where the text of some names begins with that of others, these come first among them. -/
theorem exists_append_of_slashed {path root : List Name} {tail : List Char}
    (happend : slashed path = slashed root ++ tail) (htail : tail = [] ∨ tail.head? = some '/') :
    ∃ rest, path = root ++ rest ∧ slashed rest = tail := by
  induction root generalizing path with
  | nil => exact ⟨path, rfl, happend⟩
  | cons name root ih =>
      cases path with
      | nil => cases happend
      | cons first path =>
          have hcut : first.text.toList ++ slashed path =
              name.text.toList ++ (slashed root ++ tail) := by
            simpa using happend
          have hbegins : slashed root ++ tail = [] ∨ (slashed root ++ tail).head? = some '/' := by
            cases root with
            | nil => exact htail
            | cons next root => exact .inr rfl
          obtain ⟨rfl, hpath⟩ := Name.cut_unique hcut (slashed_begins path) hbegins
          obtain ⟨rest, rfl, hrest⟩ := ih hpath
          exact ⟨rest, rfl, hrest⟩

-- ============================================================ what is between separators

theorem joined_eq_empty_iff {names : List Name} : joined names = "" ↔ names = [] := by
  constructor
  · intro h
    by_contra hne
    have hslashed := slashed_eq_joined hne
    obtain ⟨name, rest, rfl⟩ := List.exists_cons_of_ne_nil hne
    obtain ⟨c, text, htext, -⟩ := name.exists_cons
    simp [h, htext] at hslashed
  · rintro rfl
    rfl

theorem exists_cons_joined {names : List Name} (h : names ≠ []) :
    ∃ c rest, (joined names).toList = c :: rest ∧ c ≠ '/' := by
  have hslashed := slashed_eq_joined h
  obtain ⟨name, others, rfl⟩ := List.exists_cons_of_ne_nil h
  obtain ⟨c, text, htext, hc⟩ := name.exists_cons
  refine ⟨c, text ++ slashed others, ?_, hc⟩
  rw [slashed_cons, htext, List.cons_append] at hslashed
  exact (List.cons.inj hslashed).2.symm

theorem head?_joined_ne (names : List Name) : (joined names).toList.head? ≠ some '/' := by
  cases names with
  | nil => simp [joined]
  | cons name names =>
      obtain ⟨c, rest, hcons, hc⟩ := exists_cons_joined (List.cons_ne_nil name names)
      rw [hcons]
      simpa using hc

theorem getLast?_joined_ne (names : List Name) : (joined names).toList.getLast? ≠ some '/' := by
  cases names with
  | nil => simp [joined]
  | cons name names =>
      have hne := List.cons_ne_nil name names
      obtain ⟨c, rest, hcons, -⟩ := exists_cons_joined hne
      have hlast := getLast?_slashed_ne (name :: names)
      rw [slashed_eq_joined hne, hcons, List.getLast?_cons_cons] at hlast
      rwa [hcons]

theorem joined_append (names others : List Name) :
    joined (names ++ others) = "/".intercalate ([joined names, joined others].filter (· ≠ "")) := by
  by_cases hnames : names = []
  · subst hnames
    by_cases hothers : others = []
    · subst hothers
      rfl
    · have hjoined := mt joined_eq_empty_iff.1 hothers
      simp [joined_eq_empty_iff.2, hjoined]
  · have hjoined := mt joined_eq_empty_iff.1 hnames
    by_cases hothers : others = []
    · subst hothers
      simp [joined_eq_empty_iff.2, hjoined]
    · have hjoined' := mt joined_eq_empty_iff.1 hothers
      rw [List.filter_cons_of_pos (by simpa using hjoined),
        List.filter_cons_of_pos (by simpa using hjoined'), List.filter_nil,
        String.intercalate_cons_cons, String.intercalate_singleton]
      unfold joined
      rw [List.map_append, String.intercalate_append_of_ne_nil (by simpa using hnames)
        (by simpa using hothers)]

-- ============================================================ behind a root

theorem relative_self (path : String) : relative path path = .ok "" := by
  have hstrip : Text.stripStart? path.toList path.toList = some [] :=
    Text.stripStart?_eq_some_iff.2 (List.append_nil _).symm
  simp [relative, relativeChars?, hstrip]

theorem relative_of_separator {path root : String} {rest : List Char}
    (h : path.toList = root.toList ++ '/' :: rest) : relative path root = .ok (String.ofList rest) := by
  simp [relative, relativeChars?, Text.stripStart?_eq_some_iff.2 h]

theorem relative_of_ended {path root : String} {c : Char} {rest : List Char}
    (h : path.toList = root.toList ++ c :: rest) (hc : c ≠ '/')
    (hroot : root.toList.getLast? = some '/') : relative path root = .ok (String.ofList (c :: rest)) := by
  have hends : endsInSeparator root.toList = true := decide_eq_true hroot
  simp [relative, relativeChars?, Text.stripStart?_eq_some_iff.2 h, hc, hends]

namespace RootSpelling

variable {root : RootSpelling} {path rest : List Name}

theorem toList_text_of_ended (h : root.trailing = true ∨ root.names = []) :
    root.text.toList = slashed root.names ++ ['/'] := by
  rcases h with h | h
  · simp [text, h, toList_ofNames (root.names_ne h)]
  · have htrailing : root.trailing = false := by
      cases ht : root.trailing with
      | false => rfl
      | true => exact absurd h (root.names_ne ht)
    simp [text, h, htrailing, toList_ofNames_nil]

theorem toList_text (htrailing : root.trailing = false) (hnames : root.names ≠ []) :
    root.text.toList = slashed root.names := by
  simp [text, htrailing, toList_ofNames hnames]

/-- Behind a root stand the names that follow its own. -/
theorem relative_append (root : RootSpelling) (rest : List Name)
    (h : root.trailing = true → rest ≠ []) :
    relative (ofNames (root.names ++ rest)) root.text = .ok (joined rest) := by
  by_cases hrest : rest = []
  · have htrailing : root.trailing = false := Bool.eq_false_iff.2 fun ht => h ht hrest
    have htext : root.text = ofNames root.names := by simp [text, htrailing]
    rw [hrest, List.append_nil, htext, relative_self]
    rfl
  · have hpath : (ofNames (root.names ++ rest)).toList =
        slashed root.names ++ '/' :: (joined rest).toList := by
      rw [toList_ofNames (List.append_ne_nil_of_right_ne_nil _ hrest), slashed_append,
        slashed_eq_joined hrest]
    by_cases hended : root.trailing = true ∨ root.names = []
    · have htext := toList_text_of_ended hended
      obtain ⟨c, others, hjoined, hc⟩ := exists_cons_joined hrest
      have happend : (ofNames (root.names ++ rest)).toList = root.text.toList ++ c :: others := by
        rw [hpath, htext, hjoined, List.append_assoc, List.singleton_append]
      rw [relative_of_ended happend hc (by rw [htext]; simp), ← hjoined, String.ofList_toList]
    · obtain ⟨htrailing, hnames⟩ := not_or.1 hended
      rw [← toList_text (Bool.eq_false_iff.2 htrailing) hnames] at hpath
      rw [relative_of_separator hpath, String.ofList_toList]

theorem relative_append_plain (names rest : List Name) :
    relative (ofNames (names ++ rest)) (ofNames names) = .ok (joined rest) := by
  have htrailing : (plain names).trailing = true → rest ≠ [] := fun ht => Bool.noConfusion ht
  have h := relative_append (plain names) rest htrailing
  rwa [text_plain] at h

theorem Contains.exists_append (h : root.Contains path) :
    ∃ rest, path = root.names ++ rest ∧ (root.trailing = true → rest ≠ []) := by
  obtain ⟨⟨rest, rfl⟩, hmore⟩ := h
  refine ⟨rest, rfl, fun ht hrest => hmore ht ?_⟩
  rw [hrest, List.append_nil]

theorem contains_of_append (h : root.trailing = true → rest ≠ []) : root.Contains (root.names ++ rest) := by
  refine ⟨List.prefix_append .., fun ht heq => h ht ?_⟩
  simpa using heq

/-- A root stands around no other paths than those it contains. -/
theorem contains_of_around (h : Around root.text (ofNames path)) : root.Contains path := by
  obtain ⟨tail, happend, htail⟩ := h
  by_cases hended : root.trailing = true ∨ root.names = []
  · rw [toList_text_of_ended hended, List.append_assoc, List.singleton_append] at happend
    by_cases hpath : path = []
    · -- the path is the separator alone, and so is the root
      rw [hpath, toList_ofNames_nil] at happend
      have hnames : root.names = [] := by
        rw [← slashed_eq_nil_iff]
        have hlength := congrArg List.length happend
        simp only [List.length_append, List.length_cons, List.length_nil] at hlength
        exact List.eq_nil_of_length_eq_zero (by omega)
      rw [hpath]
      exact ⟨hnames ▸ List.nil_prefix, fun ht => absurd hnames (root.names_ne ht)⟩
    · rw [toList_ofNames hpath] at happend
      obtain ⟨rest, rfl, hrest⟩ := exists_append_of_slashed happend (.inr rfl)
      apply contains_of_append
      rintro - rfl
      cases hrest
  · obtain ⟨htrailing, hnames⟩ := not_or.1 hended
    have htext := toList_text (Bool.eq_false_iff.2 htrailing) hnames
    rw [htext] at happend htail
    have hbegins : tail = [] ∨ tail.head? = some '/' := by
      rcases htail with htail | htail | htail
      · exact .inl htail
      · exact .inr htail
      · exact absurd htail (getLast?_slashed_ne _)
    by_cases hpath : path = []
    · obtain ⟨name, names, hcons⟩ := List.exists_cons_of_ne_nil hnames
      obtain ⟨c, text, hname, -⟩ := name.exists_cons
      rw [hpath, toList_ofNames_nil, hcons, slashed_cons, hname] at happend
      simp at happend
    · rw [toList_ofNames hpath] at happend
      obtain ⟨rest, rfl, -⟩ := exists_append_of_slashed happend hbegins
      exact contains_of_append fun ht => absurd ht htrailing

theorem relative_isOk_iff :
    (∃ rel, relative (ofNames path) root.text = .ok rel) ↔ root.Contains path := by
  constructor
  · intro h
    exact contains_of_around (relative_ok_iff.1 h)
  · intro h
    obtain ⟨rest, rfl, hrest⟩ := h.exists_append
    exact ⟨joined rest, relative_append root rest hrest⟩

example : relative "/repo" "/repo/" = .error (.outsideRoot "/repo" "/repo/") := by decide

/-- A path below a root, as one puts it in names. -/
theorem exists_joined_of_relative {rel : String} (h : relative (ofNames path) root.text = .ok rel) :
    ∃ rest, path = root.names ++ rest ∧ rel = joined rest := by
  obtain ⟨rest, rfl, hrest⟩ := (relative_isOk_iff.1 ⟨rel, h⟩).exists_append
  rw [relative_append root rest hrest] at h
  cases h
  exact ⟨rest, rfl, rfl⟩

theorem exists_joined_of_plain {names : List Name} {rel : String}
    (h : relative (ofNames path) (ofNames names) = .ok rel) :
    ∃ rest, path = names ++ rest ∧ rel = joined rest := by
  have hplain : relative (ofNames path) (plain names).text = .ok rel := by rwa [text_plain]
  exact exists_joined_of_relative hplain

end RootSpelling

-- ============================================================ the result

theorem relative_error_of_not_ok {path root : String} (h : ¬ ∃ rel, relative path root = .ok rel) :
    relative path root = .error (.outsideRoot path root) := by
  unfold relative at h ⊢
  split
  · next rest hrest => exact absurd ⟨_, by rw [hrest]⟩ h
  · rfl

/-- What a path is relative to a root, in the names of both. -/
structure RelativeByNames (path : List Name) (root : RootSpelling) : Prop where
  ok_iff : (∃ rel, relative (ofNames path) root.text = .ok rel) ↔ root.Contains path
  /-- What is left are the names behind those of the root, and the path of the root itself is empty. -/
  rest : ∀ rel, relative (ofNames path) root.text = .ok rel →
    ∃ rest, path = root.names ++ rest ∧ rel = joined rest ∧ (rel = "" ↔ path = root.names)
  bare : ∀ rel, relative (ofNames path) root.text = .ok rel →
    rel.toList.head? ≠ some '/' ∧ rel.toList.getLast? ≠ some '/'
  outside : ¬ root.Contains path →
    relative (ofNames path) root.text = .error (.outsideRoot (ofNames path) root.text)
  /-- Through a root inside another one, a path is reached in two parts. -/
  nested : ∀ (outer inner : List Name) (between below : String),
    relative (ofNames inner) (ofNames outer) = .ok between →
    relative (ofNames path) (ofNames inner) = .ok below →
    relative (ofNames path) (ofNames outer) =
      .ok ("/".intercalate ([between, below].filter (· ≠ "")))

/-- A path lies inside a root exactly when its names begin with those of the root, and is relative to it
what is left of them. -/
theorem relative_by_names (path : List Name) (root : RootSpelling) : RelativeByNames path root where
  ok_iff := RootSpelling.relative_isOk_iff
  rest := by
    intro rel hrel
    obtain ⟨rest, rfl, rfl⟩ := RootSpelling.exists_joined_of_relative hrel
    refine ⟨rest, rfl, rfl, ?_⟩
    rw [joined_eq_empty_iff]
    simp
  bare := by
    intro rel hrel
    obtain ⟨rest, -, rfl⟩ := RootSpelling.exists_joined_of_relative hrel
    exact ⟨head?_joined_ne rest, getLast?_joined_ne rest⟩
  outside := by
    intro hnot
    apply relative_error_of_not_ok
    rwa [RootSpelling.relative_isOk_iff]
  nested := by
    intro outer inner between below hbetween hbelow
    obtain ⟨names, rfl, rfl⟩ := RootSpelling.exists_joined_of_plain hbetween
    obtain ⟨rest, rfl, rfl⟩ := RootSpelling.exists_joined_of_plain hbelow
    rw [List.append_assoc, RootSpelling.relative_append_plain, joined_append]

end Hydration.Path
