import MockSchema.Proofs.Outcome
import MockSchema.Proofs.Spans
import MockSchema.Unicode.Class

/-!
# Spans of the sets with a property

Every table lists spans between characters, and whatever is computed from the tables keeps to such spans.
So every query that is resolved gives a canonical set (`resolve_canonical`), and closing a canonical set
under differences of case keeps it canonical (`foldCase_canonical`).
-/

namespace MockSchema.Unicode

open CharSet

/-! ## Tables -/

/-- Every table that a set is taken or computed from. -/
def tables : List (List (Nat × Nat)) :=
  assignedCategories.map Prod.snd ++ binaryTables.map Prod.snd ++
    graphemeBreakTables.map Prod.snd ++ wordBreakTables.map Prod.snd ++
    sentenceBreakTables.map Prod.snd ++ scriptTable.map Prod.snd ++
    scriptExtensionTable.map Prod.fst ++ ageTable.map Prod.snd ++
    [[(0, lastCodePoint)], [(0, 0x7F)], acrossSurrogates, wordMidLetter, wordMidNumberLetter,
     [(0x27, 0x27)], [(0xFFF9, 0xFFFB), (0x13430, 0x13440)], unstableIdContinue, unstableIdStart,
     [(0xAC00, 0xD7A3)], graphemeSpacingMarkExtra, graphemeSpacingMarkExcept, [(0x200D, 0x200D)],
     wordLetterExtra, wordLetterExcept, [(0x10D0, 0x10FA), (0x10FD, 0x10FF)],
     [(0x1C90, 0x1CBA), (0x1CBD, 0x1CBF)], [(0x5F3, 0x5F3)]]

/-- Every table lists spans between characters. The check runs over all of them at once. -/
theorem tables_ends : ∀ table ∈ tables, HasEnds ⟨table⟩ := by
  have check : (tables.all fun table => table.all fun s => decide (IsSpan s)) = true := by
    decide +kernel
  intro table listed s member
  exact of_decide_eq_true (List.all_eq_true.mp (List.all_eq_true.mp check table listed) s member)

theorem table_ends {table : List (Nat × Nat)} (listed : table ∈ tables) : HasEnds ⟨table⟩ :=
  tables_ends table listed

theorem some_ends {some : List (List (Nat × Nat))} (listed : some ⊆ tables) :
    ∀ table ∈ some, HasEnds ⟨table⟩ :=
  fun table member => tables_ends table (listed member)

/-- A computed set in front of tables. -/
theorem cons_ends {a : CharSet} {tables : List (List (Nat × Nat))} (h : a.HasEnds)
    (ends : ∀ table ∈ tables, HasEnds ⟨table⟩) : ∀ table ∈ a.spans :: tables, HasEnds ⟨table⟩ :=
  List.forall_mem_cons.mpr ⟨h, ends⟩

theorem lookup_ends {rows : List (String × List (Nat × Nat))} {name : String} {a : CharSet}
    (listed : ∀ table ∈ rows.map Prod.snd, table ∈ tables)
    (found : (rows.lookup name).map CharSet.mk = some a) : a.HasEnds := by
  obtain ⟨table, row, rfl⟩ := Option.map_eq_some_iff.mp found
  obtain ⟨before, after, rfl, -⟩ := List.lookup_eq_some_iff.mp row
  exact table_ends (listed table (by simp))

theorem ofTables_canonical {tables : List (List (Nat × Nat))}
    (ends : ∀ table ∈ tables, HasEnds ⟨table⟩) : (ofTables tables).Canonical := by
  refine ofSpans_canonical fun s member => ?_
  obtain ⟨table, listed, member⟩ := List.mem_flatten.mp member
  exact ends table listed s member

theorem ofTables_ends {tables : List (List (Nat × Nat))}
    (ends : ∀ table ∈ tables, HasEnds ⟨table⟩) : (ofTables tables).HasEnds :=
  (ofTables_canonical ends).ends

theorem complement_ends {a : CharSet} (h : a.Canonical) : (complement a).HasEnds :=
  (complement_proper (by decide) h).ends

/-! ## Categories and binary properties -/

theorem unassigned_canonical : unassigned.Canonical :=
  (complement_ends (ofTables_canonical (some_ends (by simp [tables])))).canonical

theorem letter_ends : letter.HasEnds :=
  ofTables_ends (some_ends (by simp [tables, assignedCategories]))

theorem mark_ends : mark.HasEnds :=
  ofTables_ends (some_ends (by simp [tables, assignedCategories]))

theorem lowercase_ends : lowercase.HasEnds :=
  ofTables_ends (some_ends (by simp [tables, assignedCategories, binaryTables]))

theorem uppercase_ends : uppercase.HasEnds :=
  ofTables_ends (some_ends (by simp [tables, assignedCategories, binaryTables]))

theorem alphabetic_ends : alphabetic.HasEnds :=
  ofTables_ends (cons_ends lowercase_ends (cons_ends uppercase_ends
    (some_ends (by simp [tables, assignedCategories, binaryTables]))))

theorem wordCharacter_canonical : wordCharacter.Canonical :=
  ofTables_canonical (cons_ends alphabetic_ends (cons_ends mark_ends
    (some_ends (by simp [tables, assignedCategories, binaryTables]))))

theorem graphemeExtend_ends : graphemeExtend.HasEnds :=
  ofTables_ends (some_ends (by simp [tables, assignedCategories, binaryTables]))

theorem patternReserved_ends : patternReserved.HasEnds :=
  ofTables_ends (some_ends (by simp [tables, binaryTables]))

theorem idStart_ends : idStart.HasEnds :=
  diff_ends (ofTables_ends (cons_ends letter_ends
    (some_ends (by simp [tables, assignedCategories, binaryTables])))) patternReserved_ends

theorem idContinue_ends : idContinue.HasEnds :=
  diff_ends (ofTables_ends (cons_ends idStart_ends
    (some_ends (by simp [tables, assignedCategories, binaryTables])))) patternReserved_ends

theorem defaultIgnorable_ends : defaultIgnorable.HasEnds :=
  diff_ends (ofTables_ends (some_ends (by simp [tables, assignedCategories, binaryTables])))
    (ofTables_ends (some_ends (by simp [tables, binaryTables])))

theorem other_ends : other.HasEnds := by
  refine ofTables_ends ?_
  simp only [List.forall_mem_cons]
  refine ⟨?_, ?_, ?_, ?_, unassigned_canonical.ends, by simp⟩
  all_goals exact table_ends (by simp [tables, assignedCategories])

theorem graphemeBase_ends : graphemeBase.HasEnds := by
  refine complement_ends (ofTables_canonical ?_)
  simp only [List.forall_mem_cons]
  refine ⟨?_, ?_, ?_, ?_, unassigned_canonical.ends, ?_, ?_, graphemeExtend_ends, by simp⟩
  all_goals exact table_ends (by simp [tables, assignedCategories])

theorem category?_ends {name : String} {a : CharSet} (found : category? name = some a) :
    a.HasEnds := by
  unfold category? at found
  split at found
  case h_7 => cases found; exact other_ends
  case h_9 => cases found; exact unassigned_canonical.ends
  case h_10 | h_12 => cases found; exact table_ends (by simp [tables])
  case h_11 => cases found; exact complement_ends unassigned_canonical
  case h_13 =>
    refine lookup_ends (fun _ row => ?_) found
    simp only [tables, List.mem_append, row, true_or]
  all_goals
    cases found
    exact ofTables_ends (some_ends (by simp [tables, assignedCategories]))

theorem binary?_ends {name : String} {a : CharSet} (found : binary? name = some a) :
    a.HasEnds := by
  unfold binary? at found
  split at found
  case h_1 => cases found; exact alphabetic_ends
  case h_3 =>
    cases found
    exact ofTables_ends (cons_ends lowercase_ends (cons_ends uppercase_ends
      (some_ends (by simp [tables, assignedCategories]))))
  case h_5 => cases found; exact defaultIgnorable_ends
  case h_6 => cases found; exact graphemeBase_ends
  case h_8 => cases found; exact idContinue_ends
  case h_9 => cases found; exact idStart_ends
  case h_13 => cases found; exact diff_ends idContinue_ends (table_ends (by simp [tables]))
  case h_14 =>
    cases found
    have unstable : HasEnds ⟨unstableIdStart⟩ := table_ends (by simp [tables])
    exact diff_ends idStart_ends unstable.canonical.ends
  case h_15 =>
    refine lookup_ends (fun _ row => ?_) found
    simp only [tables, List.mem_append, row, true_or, or_true]
  all_goals
    cases found
    exact ofTables_ends (some_ends (by simp [tables, assignedCategories, binaryTables]))

/-! ## Break classes -/

theorem graphemeBreakExtend_ends : graphemeBreakExtend.HasEnds :=
  ofTables_ends (cons_ends graphemeExtend_ends (some_ends (by simp [tables, binaryTables])))

theorem wordBreakExtend_ends : wordBreakExtend.HasEnds :=
  diff_ends (ofTables_ends (cons_ends graphemeExtend_ends
    (some_ends (by simp [tables, assignedCategories, binaryTables])))) (table_ends (by simp [tables]))

theorem sentenceBreakExtend_ends : sentenceBreakExtend.HasEnds :=
  ofTables_ends (cons_ends graphemeExtend_ends
    (some_ends (by simp [tables, assignedCategories])))

theorem sentenceLower_ends : sentenceLower.HasEnds :=
  diff_ends lowercase_ends
    (ofTables_ends (cons_ends graphemeExtend_ends (some_ends (by simp [tables]))))

theorem sentenceUpper_ends : sentenceUpper.HasEnds := by
  refine diff_ends (ofTables_ends ?_) (table_ends (by simp [tables]))
  simp only [List.forall_mem_cons]
  exact ⟨table_ends (by simp [tables, assignedCategories]), uppercase_ends, by simp⟩

theorem graphemeBreak?_ends {name : String} {a : CharSet} (found : graphemeBreak? name = some a) :
    a.HasEnds := by
  unfold graphemeBreak? at found
  split at found
  · obtain rfl := Option.some.inj found
    exact graphemeBreakExtend_ends
  · obtain rfl := Option.some.inj found
    have syllables : HasEnds ⟨openSyllables⟩ := table_ends (by simp [tables, graphemeBreakTables])
    exact diff_ends (table_ends (by simp [tables])) syllables
  · obtain rfl := Option.some.inj found
    have marks : HasEnds ⟨spacingMark⟩ := table_ends (by simp [tables, assignedCategories])
    have extra : HasEnds ⟨graphemeSpacingMarkExtra⟩ := table_ends (by simp [tables])
    have except : HasEnds ⟨graphemeSpacingMarkExcept⟩ := table_ends (by simp [tables])
    exact diff_ends (diff_ends (union_canonical marks extra).ends except) graphemeBreakExtend_ends
  · refine lookup_ends (fun _ row => ?_) found
    simp only [tables, List.mem_append, row, true_or, or_true]

theorem wordBreak?_ends {name : String} {a : CharSet} (found : wordBreak? name = some a) :
    a.HasEnds := by
  unfold wordBreak? at found
  split at found
  · cases found
    refine diff_ends (ofTables_ends (cons_ends alphabetic_ends (some_ends (by simp [tables]))))
      (ofTables_ends ?_)
    simp only [List.forall_mem_cons]
    refine ⟨?_, ?_, ?_, wordBreakExtend_ends, ?_, by simp⟩
    all_goals exact table_ends (by simp [tables, binaryTables, wordBreakTables])
  · cases found
    exact wordBreakExtend_ends
  · refine lookup_ends (fun _ row => ?_) found
    simp only [tables, List.mem_append, row, true_or, or_true]

theorem sentenceBreak?_ends {name : String} {a : CharSet} (found : sentenceBreak? name = some a) :
    a.HasEnds := by
  unfold sentenceBreak? at found
  split at found
  · cases found
    exact sentenceBreakExtend_ends
  · cases found
    refine diff_ends (ofTables_ends (cons_ends alphabetic_ends (some_ends (by simp [tables])))) ?_
    refine (unions_canonical ?_).ends
    simp only [List.forall_mem_cons]
    exact ⟨sentenceLower_ends, sentenceUpper_ends, sentenceBreakExtend_ends, by simp⟩
  · cases found
    exact sentenceLower_ends
  · cases found
    exact sentenceUpper_ends
  · refine lookup_ends (fun _ row => ?_) found
    simp only [tables, List.mem_append, row, true_or, or_true]

/-! ## Queries -/

theorem script?_ends {name : String} {a : CharSet} (found : script? name = some a) : a.HasEnds := by
  refine lookup_ends (fun _ row => ?_) found
  simp only [tables, List.mem_append, row, true_or, or_true]

theorem scriptExtension?_ends {name : String} {a : CharSet}
    (found : scriptExtension? name = some a) : a.HasEnds := by
  obtain ⟨own, script, rfl⟩ := Option.map_eq_some_iff.mp found
  have ends : ∀ keep : List (Nat × Nat) × List String → Bool,
      (ofTables ((scriptExtensionTable.filter keep).map Prod.fst)).HasEnds := by
    refine fun keep => ofTables_ends fun table listed => ?_
    obtain ⟨row, kept, rfl⟩ := List.mem_map.mp listed
    have row := List.mem_map_of_mem (f := Prod.fst) (List.mem_filter.mp kept).1
    exact table_ends (by simp only [tables, List.mem_append, row, true_or, or_true])
  simp only [List.partition_eq_filter_filter]
  exact (union_canonical (diff_ends (script?_ends script) (ends _)) (ends _)).ends

theorem assignedBy?_ends {version : String} {a : CharSet}
    (found : assignedBy? version = some a) : a.HasEnds := by
  unfold assignedBy? at found
  split at found
  · cases found
    refine ofTables_ends fun table listed => ?_
    obtain ⟨row, counted, rfl⟩ := List.mem_map.mp listed
    have known : row ∈ ageTable := by
      rcases List.mem_append.mp counted with earlier | this
      · exact (List.takeWhile_sublist _).subset earlier
      · exact (List.mem_filter.mp this).1
    have row := List.mem_map_of_mem (f := Prod.snd) known
    exact table_ends (by simp only [tables, List.mem_append, row, true_or, or_true])
  · cases found

theorem orValueError_eq_ok_iff (found : Option CharSet) (a : CharSet) :
    orValueError found = .ok a ↔ found = some a := by
  cases found <;> simp [orValueError]

theorem ofName_ends {text : List Char} {a : CharSet} (found : ofName text = .ok a) :
    a.HasEnds := by
  unfold ofName at found
  dsimp only at found
  split at found
  · split at found
    · next property =>
      cases found
      exact binary?_ends property
    · cases found
  · split at found
    · exact category?_ends ((orValueError_eq_ok_iff ..).mp found)
    · split at found
      · exact script?_ends ((orValueError_eq_ok_iff ..).mp found)
      · cases found

theorem ofValue_ends {property value : List Char} {a : CharSet}
    (found : ofValue property value = .ok a) : a.HasEnds := by
  unfold ofValue at found
  dsimp only at found
  split at found
  case h_1 => cases found
  case h_9 => cases found
  all_goals
    obtain ⟨name, -, known⟩ := Option.bind_eq_some_iff.mp ((orValueError_eq_ok_iff ..).mp found)
  · exact category?_ends known
  · exact script?_ends known
  · exact scriptExtension?_ends known
  · exact assignedBy?_ends known
  · exact graphemeBreak?_ends known
  · exact wordBreak?_ends known
  · exact sentenceBreak?_ends known

/-- Whatever a query asks for, it gets a canonical set. -/
theorem resolve_canonical {q : Query} {a : CharSet} (found : q.resolve = .ok a) : a.Canonical := by
  unfold Query.resolve at found
  cases q with
  | name text =>
    obtain ⟨s, named, rfl⟩ := (map_eq_ok_iff ..).mp found
    exact (ofName_ends named).canonical
  | value property value =>
    obtain ⟨s, named, rfl⟩ := (map_eq_ok_iff ..).mp found
    exact (ofValue_ends named).canonical

/-! ## Case -/

theorem caseGroups_char : ∀ group ∈ caseGroups, ∀ n ∈ group, n.isValidChar := by
  have check : (caseGroups.all fun group => group.all fun n => decide n.isValidChar) = true := by
    decide +kernel
  intro group listed n member
  exact of_decide_eq_true (List.all_eq_true.mp (List.all_eq_true.mp check group listed) n member)

theorem foldCase_canonical {a : CharSet} (h : a.Canonical) : (foldCase a).Canonical := by
  unfold foldCase
  dsimp only
  split
  · exact h
  · refine ofSpans_canonical fun s member => ?_
    rcases List.mem_append.mp member with member | member
    · exact h.ends s member
    · obtain ⟨n, added, rfl⟩ := List.mem_map.mp member
      obtain ⟨group, kept, listed⟩ := List.mem_flatten.mp added
      have valid := caseGroups_char group (List.mem_filter.mp kept).1 n listed
      exact ⟨valid, valid, Nat.le_refl n⟩

end MockSchema.Unicode
