import ProcureFoundation.Copilot.OwnAnswers

/-!
# The supplier that a name finds

A name that the language model has read in the question is searched for between percent signs. The
database refuses a name with a null character and no other. The search finds the first supplier of
the organisation that has the name as a part of its own, where the wildcards in a name still stand
for other characters.
-/

namespace ProcureFoundation.Copilot

open LikePattern

/-- The wildcards have no case. -/
def KeepsWildcards (lower : Char → Char) : Prop :=
  ∀ wildcard ∈ ['\\', '%', '_'], ∀ c, lower c = wildcard ↔ c = wildcard

/-- The supplier has what the name finds in its legal name. -/
def HasName (lower : Char → Char) (name : String) (row : OwnedSupplier) : Prop :=
  FindsInside (name.toList.map lower) (row.supplier.legalName.toList.map lower)

structure FindsFirst (texts : CopilotTexts) (tables : CopilotTables) (organisationId : ℕ)
    (name : String) : Prop where
  refused : resolveSupplierId texts tables organisationId name = .error .database ↔
    nullFree name = false
  found : nullFree name = true → ∀ supplierId, resolveSupplierId texts tables organisationId name =
    .ok (some supplierId) ↔
    ∃ before row after, (tables.own organisationId).suppliers = before ++ row :: after ∧
      row.supplier.id = supplierId ∧
      HasName texts.lower name row ∧ ∀ earlier ∈ before, ¬HasName texts.lower name earlier
  missing : nullFree name = true → (resolveSupplierId texts tables organisationId name = .ok none ↔
    ∀ row ∈ (tables.own organisationId).suppliers, ¬HasName texts.lower name row)
  searches : ∀ row ∈ tables.suppliers,
    (like (row.supplier.legalName.toList.map texts.lower) ((namePattern name).map texts.lower)).isSome
  plain : Plain name.toList → ∀ row, HasName texts.lower name row ↔
    name.toList.map texts.lower <:+: row.supplier.legalName.toList.map texts.lower

section Names

variable {lower : Char → Char} {texts : CopilotTexts} {tables : CopilotTables} {organisationId : ℕ}
  {name : String} {row : OwnedSupplier}

theorem KeepsWildcards.plain (hLower : KeepsWildcards lower) {text : List Char} (h : Plain text) :
    Plain (text.map lower) := by
  intro c hc
  obtain ⟨d, hd, rfl⟩ := List.mem_map.mp hc
  obtain ⟨hEscape, hPercent, hUnderscore⟩ := h d hd
  refine ⟨?_, ?_, ?_⟩
  · rwa [ne_eq, hLower '\\' (by decide)]
  · rwa [ne_eq, hLower '%' (by decide)]
  · rwa [ne_eq, hLower '_' (by decide)]

theorem namePattern_map (hLower : KeepsWildcards lower) (name : String) :
    (namePattern name).map lower = '%' :: (name.toList.map lower ++ ['%']) := by
  rw [namePattern, List.map_cons, List.map_append, List.map_singleton,
    (hLower '%' (by decide) '%').mpr rfl]

theorem ilike_namePattern (hLower : KeepsWildcards lower) :
    ilike lower row.supplier.legalName.toList (namePattern name) = true ↔
      HasName lower name row := by
  obtain ⟨finds, hFinds, hIff⟩ :=
    like_surrounded (name.toList.map lower) (row.supplier.legalName.toList.map lower)
  rw [ilike, namePattern_map hLower, hFinds]
  exact hIff

/-- Whatever name the language model returns, the search refuses it for a null character or finds
the first supplier that has it. -/
theorem finds_first (hLower : KeepsWildcards texts.lower) (tables : CopilotTables)
    (organisationId : ℕ) (name : String) : FindsFirst texts tables organisationId name := by
  refine ⟨?_, fun hName supplierId => ?_, fun hName => ?_, fun row _ => ?_,
    fun hPlain row => findsInside_plain (hLower.plain hPlain)⟩
  · rw [resolveSupplierId]
    cases nullFree name with
    | false => exact iff_of_true rfl rfl
    | true => exact iff_of_false (by rintro ⟨⟩) Bool.noConfusion
  · rw [resolveSupplierId, if_pos hName, Except.ok.injEq, Option.map_eq_some_iff]
    constructor
    · rintro ⟨row, hRow, rfl⟩
      obtain ⟨hNamed, before, after, hRows, hBefore⟩ := List.find?_eq_some_iff_append.mp hRow
      refine ⟨before, row, after, hRows, rfl, (ilike_namePattern hLower).mp hNamed,
        fun earlier hEarlier hHas => ?_⟩
      have hNot := hBefore earlier hEarlier
      rw [(ilike_namePattern hLower).mpr hHas] at hNot
      exact Bool.noConfusion hNot
    · rintro ⟨before, row, after, hRows, rfl, hNamed, hBefore⟩
      refine ⟨row, List.find?_eq_some_iff_append.mpr
        ⟨(ilike_namePattern hLower).mpr hNamed, before, after, hRows, ?_⟩, rfl⟩
      intro earlier hEarlier
      rw [Bool.not_eq_true', Bool.eq_false_iff]
      exact fun hHas => hBefore earlier hEarlier ((ilike_namePattern hLower).mp hHas)
  · rw [resolveSupplierId, if_pos hName, Except.ok.injEq, Option.map_eq_none_iff,
      List.find?_eq_none]
    exact forall₂_congr fun row _ => not_congr (ilike_namePattern hLower)
  · obtain ⟨finds, hFinds, -⟩ :=
      like_surrounded (name.toList.map texts.lower) (row.supplier.legalName.toList.map texts.lower)
    rw [namePattern_map hLower, hFinds]
    rfl

end Names

theorem toLower_keepsWildcards : KeepsWildcards Char.toLower := by
  intro wildcard hWildcard c
  delta Char.toLower
  split
  · rename_i hUpper
    constructor
    · intro h
      have hCode := congrArg (fun found => found.val.toNat) h
      have hLow := UInt32.le_iff_toNat_le.mp hUpper.1
      have hHigh := UInt32.le_iff_toNat_le.mp hUpper.2
      simp at hWildcard hCode hLow hHigh
      obtain rfl | rfl | rfl := hWildcard
      all_goals (simp at hCode; omega)
    · rintro rfl
      simp at hWildcard
      obtain rfl | rfl | rfl := hWildcard
      all_goals exact absurd hUpper (by decide)
  · exact Iff.rfl

theorem twoMillers_finds_first : FindsFirst asciiTexts twoMillers 2 "MILL" ∧
    resolveSupplierId asciiTexts twoMillers 2 "MILL" = .ok (some 2) :=
  ⟨finds_first toLower_keepsWildcards twoMillers 2 "MILL", by decide⟩

end ProcureFoundation.Copilot
