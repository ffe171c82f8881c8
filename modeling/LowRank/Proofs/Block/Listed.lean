import LowRank.Proofs.Block.Tabulated

/-!
# Blocks from lists of rows

A block is made from a list of rows that are all as long as the first one; a list with other rows is
refused for the first of them. The block has the rows of the list, and the rows of a block make the
block again. Only a block without rows is lost, because a list without rows has no width.
-/

namespace LowRank.Block

variable {α : Type}

/-- All rows of a list are as long as the first one. -/
def Rectangular (rows : List (List α)) : Prop :=
  ∀ first, rows.head? = some first → ∀ row ∈ rows, row.length = first.length

/-- The row at an index is the first one that is not as long as the first row of the list. -/
structure FirstRagged (rows : List (List α)) (index cols expected : Nat) : Prop where
  expected_eq : rows.head?.map List.length = some expected
  cols_eq : rows[index]?.map List.length = some cols
  cols_ne : cols ≠ expected
  earlier_eq : ∀ earlier < index, rows[earlier]?.map List.length = some expected

theorem firstRagged?_eq_some_iff (cols : Nat) (rows : List (List α)) (row : List α) (index : Nat) :
    firstRagged? cols rows = some (row, index) ↔
      rows[index]? = some row ∧ row.length ≠ cols ∧
        ∀ earlier < index, rows[earlier]?.map List.length = some cols := by
  rw [firstRagged?, List.find?_eq_some_iff_getElem]
  constructor
  · rintro ⟨ragged, place, place_lt, entry_eq, before⟩
    simp only [List.getElem_zipIdx, Nat.zero_add, Prod.mk.injEq] at entry_eq
    rcases entry_eq with ⟨rfl, rfl⟩
    rw [List.length_zipIdx] at place_lt
    refine ⟨List.getElem?_eq_getElem place_lt, by simpa using ragged, ?_⟩
    intro earlier earlier_lt
    have even := before earlier earlier_lt
    rw [List.getElem?_eq_getElem (by omega)]
    simpa using even
  · rintro ⟨found, ragged, before⟩
    rcases List.getElem?_eq_some_iff.mp found with ⟨index_lt, row_eq⟩
    refine ⟨by simpa using ragged, index, by simpa using index_lt, by simp [row_eq], ?_⟩
    intro earlier earlier_lt
    have even := before earlier earlier_lt
    rw [List.getElem?_eq_getElem (by omega)] at even
    simpa using even

theorem firstRagged?_eq_none_iff (cols : Nat) (rows : List (List α)) :
    firstRagged? cols rows = none ↔ ∀ row ∈ rows, row.length = cols := by
  simp only [firstRagged?, List.find?_eq_none]
  constructor
  · intro even row row_mem
    rcases List.getElem_of_mem row_mem with ⟨index, index_lt, rfl⟩
    have entry_mem : (rows[index], index) ∈ rows.zipIdx := by
      rw [List.mk_mem_zipIdx_iff_getElem?]
      exact List.getElem?_eq_getElem index_lt
    simpa using even _ entry_mem
  · intro even entry entry_mem
    have row_mem := List.mem_of_getElem? (List.mk_mem_zipIdx_iff_getElem?.mp entry_mem)
    simpa using even entry.1 row_mem

theorem rectangular_iff (rows : List (List α)) :
    Rectangular rows ↔ ∀ row ∈ rows, row.length = widthOf rows := by
  cases rows with
  | nil => simp [Rectangular]
  | cons first rest => simp [Rectangular, widthOf]

theorem widthOf_eq_iff (rows : List (List α)) (index : Nat) (row : List α) (expected : Nat)
    (found : rows[index]? = some row) :
    widthOf rows = expected ↔ rows.head?.map List.length = some expected := by
  cases rows with
  | nil => cases found
  | cons first rest => simp [widthOf]

theorem ofRows_eq_ok_iff (rows : List (List α)) (block : Block α) :
    ofRows rows = .ok block ↔
      (∀ row ∈ rows, row.length = widthOf rows) ∧
        block = { rows := rows.length, cols := widthOf rows, cells := rows.flatten.toArray } := by
  rw [← firstRagged?_eq_none_iff]
  simp only [ofRows]
  cases firstRagged? (widthOf rows) rows with
  | none => simp [eq_comm]
  | some ragged => simp

theorem ofRows_eq_error_iff (rows : List (List α)) (cause : Mismatch) :
    ofRows rows = .error cause ↔
      ∃ index cols expected, FirstRagged rows index cols expected ∧
        cause = .raggedRow index cols expected := by
  constructor
  · intro refused
    simp only [ofRows] at refused
    split at refused
    · rename_i row index ragged
      rcases (firstRagged?_eq_some_iff _ rows row index).mp ragged with ⟨found, row_ne, before⟩
      have head_eq := (widthOf_eq_iff rows index row _ found).mp rfl
      cases refused
      exact ⟨index, row.length, _, ⟨head_eq, by rw [found]; rfl, row_ne, before⟩, rfl⟩
    · cases refused
  · rintro ⟨index, cols, expected, ⟨head_eq, cols_eq, cols_ne, before⟩, rfl⟩
    rcases Option.map_eq_some_iff.mp cols_eq with ⟨row, found, rfl⟩
    have width_eq := (widthOf_eq_iff rows index row expected found).mpr head_eq
    have ragged := (firstRagged?_eq_some_iff expected rows row index).mpr ⟨found, cols_ne, before⟩
    simp only [ofRows, width_eq, ragged]

theorem length_flatten_of_ofRows (rows : List (List α)) (block : Block α)
    (made : ofRows rows = .ok block) : rows.flatten.length = block.rows * block.cols := by
  rcases (ofRows_eq_ok_iff rows block).mp made with ⟨even, rfl⟩
  exact length_flatten_of_even _ rows even

theorem wellFormed_of_ofRows (rows : List (List α)) (block : Block α)
    (made : ofRows rows = .ok block) (countable : rows.flatten.length < Word.size) :
    block.WellFormed := by
  have length_eq := length_flatten_of_ofRows rows block made
  refine ⟨?_, by omega⟩
  rw [← length_eq, ((ofRows_eq_ok_iff rows block).mp made).2, List.size_toArray]

section Made

variable (rows : List (List α)) (block : Block α) (made : ofRows rows = .ok block) (index : Nat)
  (row : List α) (found : rows[index]? = some row)
include made found

theorem length_of_ofRows : row.length = block.cols := by
  rcases (ofRows_eq_ok_iff rows block).mp made with ⟨even, rfl⟩
  exact even row (List.mem_of_getElem? found)

theorem lt_rows_of_ofRows : index < block.rows := by
  rcases (ofRows_eq_ok_iff rows block).mp made with ⟨_, rfl⟩
  exact (List.getElem?_eq_some_iff.mp found).1

theorem rowSlice_of_ofRows : block.rowSlice index = row := by
  have length_eq := length_of_ofRows rows block made index row found
  have index_lt := lt_rows_of_ofRows rows block made index row found
  rcases (ofRows_eq_ok_iff rows block).mp made with ⟨even, rfl⟩
  have inside := row_end_le _ index index_lt
  have size_eq := length_flatten_of_even _ rows even
  simp only at inside length_eq
  apply List.ext_getElem?
  intro col
  by_cases col_lt : col < widthOf rows
  · rw [getElem?_rowSlice _ index col col_lt, List.getElem?_toArray,
      getElem?_flatten_of_even _ rows index col even col_lt, found]
    rfl
  · rw [List.getElem?_eq_none, List.getElem?_eq_none (by omega)]
    simp only [rowSlice, Array.length_toList, Array.size_extract, List.size_toArray]
    omega

variable (countable : rows.flatten.length < Word.size)
include countable

theorem row?_of_ofRows : block.row? index = some row := by
  have wellFormed := wellFormed_of_ofRows rows block made countable
  have index_lt := lt_rows_of_ofRows rows block made index row found
  rw [block.row?_eq_some_rowSlice wellFormed index index_lt,
    rowSlice_of_ofRows rows block made index row found]

theorem cell?_of_ofRows (col : Nat) (col_lt : col < block.cols) :
    block.cell? index col = row[col]? := by
  have wellFormed := wellFormed_of_ofRows rows block made countable
  have index_lt := lt_rows_of_ofRows rows block made index row found
  rw [cell?, block.position_eq wellFormed index index_lt col col_lt,
    ← block.getElem?_rowSlice index col col_lt, rowSlice_of_ofRows rows block made index row found]

end Made

/-- A block with rows is made of its rows. -/
theorem ofRows_map_rowSlice (block : Block α) (wellFormed : block.WellFormed)
    (nonempty : 0 < block.rows) :
    ofRows ((List.range block.rows).map block.rowSlice) = .ok block := by
  have even : ∀ row ∈ (List.range block.rows).map block.rowSlice, row.length = block.cols := by
    intro row row_mem
    rcases List.mem_map.mp row_mem with ⟨index, index_mem, rfl⟩
    exact block.length_rowSlice wellFormed index (List.mem_range.mp index_mem)
  have width_eq : widthOf ((List.range block.rows).map block.rowSlice) = block.cols := by
    cases listed : (List.range block.rows).map block.rowSlice with
    | nil =>
        have count := congrArg List.length listed
        simp at count
        omega
    | cons first rest =>
        rw [listed] at even
        exact even first List.mem_cons_self
  have length_eq := length_flatten_of_even _ _ even
  have size_cells := wellFormed.size_cells
  have countable := wellFormed.countable
  have made := (ofRows_eq_ok_iff _ _).mpr ⟨by rwa [width_eq], rfl⟩
  simp only [List.length_map, List.length_range] at length_eq
  rw [made, Except.ok.injEq]
  apply eq_of_cell? _ _ (wellFormed_of_ofRows _ _ made (by omega)) wellFormed
  · simp
  · exact width_eq
  · intro row row_lt col col_lt
    simp only [List.length_map, List.length_range] at row_lt
    have col_lt' : col < block.cols := width_eq ▸ col_lt
    have found : ((List.range block.rows).map block.rowSlice)[row]? =
        some (block.rowSlice row) := by
      simp [row_lt]
    rw [cell?_of_ofRows _ _ made row _ found (by omega) col col_lt, cell?,
      block.position_eq wellFormed row row_lt col col_lt']
    exact block.getElem?_rowSlice row col col_lt'

/--
Making a block from a list of rows and reading the rows of a block undo each other. A list is
refused exactly if some row is not as long as the first one, and the first such row is reported. The
cells of a list take memory, so that no list has more of them than a word can count.
-/
theorem ofRows_rows_inverse (rows : List (List α)) (block : Block α) :
    ((∃ made, ofRows rows = .ok made) ↔ Rectangular rows) ∧
      (∀ cause, ofRows rows = .error cause ↔
        ∃ index cols expected, FirstRagged rows index cols expected ∧
          cause = .raggedRow index cols expected ∧
          cause.message = "Row " ++ toString index ++ " has " ++ toString cols ++
            " columns, expected " ++ toString expected) ∧
      (∀ made, ofRows rows = .ok made →
        made.rows = rows.length ∧
          (rows.flatten.length < Word.size → ∀ index row, rows[index]? = some row →
            made.row? index = some row ∧
              ∀ col cell, row[col]? = some cell → made.cell? index col = some cell)) ∧
      (block.WellFormed → 0 < block.rows →
        ∃ listed, (List.range block.rows).map block.row? = listed.map some ∧
          ofRows listed = .ok block) := by
  refine ⟨?_, ?_, ?_, ?_⟩
  · rw [rectangular_iff]
    constructor
    · rintro ⟨made, made_eq⟩
      exact ((ofRows_eq_ok_iff rows made).mp made_eq).1
    · intro even
      exact ⟨_, (ofRows_eq_ok_iff rows _).mpr ⟨even, rfl⟩⟩
  · intro cause
    rw [ofRows_eq_error_iff]
    constructor
    · rintro ⟨index, cols, expected, ragged, rfl⟩
      exact ⟨index, cols, expected, ragged, rfl, rfl⟩
    · rintro ⟨index, cols, expected, ragged, cause_eq, _⟩
      exact ⟨index, cols, expected, ragged, cause_eq⟩
  · intro made made_eq
    refine ⟨?_, ?_⟩
    · rw [((ofRows_eq_ok_iff rows made).mp made_eq).2]
    · intro countable index row found
      refine ⟨row?_of_ofRows rows made made_eq index row found countable, ?_⟩
      intro col cell cell_eq
      have col_lt := (List.getElem?_eq_some_iff.mp cell_eq).1
      rw [length_of_ofRows rows made made_eq index row found] at col_lt
      rw [cell?_of_ofRows rows made made_eq index row found countable col col_lt, cell_eq]
  · intro wellFormed nonempty
    refine ⟨(List.range block.rows).map block.rowSlice, ?_,
      block.ofRows_map_rowSlice wellFormed nonempty⟩
    rw [List.map_map]
    apply List.map_congr_left
    intro row row_mem
    exact block.row?_eq_some_rowSlice wellFormed row (List.mem_range.mp row_mem)

theorem ofRows_rows_inverse_without_columns :
    ofRows [[], [], [1.0], [2.0, 3.0]] = .error (.raggedRow 2 1 0) ∧
      ∃ (made : Block Float) (listed : List (List Float)),
        ofRows [[], []] = .ok made ∧ made.rows = 2 ∧ made.row? 1 = some [] ∧
          [made.row? 0, made.row? 1] = listed.map some ∧ ofRows listed = .ok made := by
  have refused := (ofRows_rows_inverse [[], [], [1.0], [2.0, 3.0]] ⟨2, 0, #[]⟩).2.1
  rcases ofRows_rows_inverse [[], []] (⟨2, 0, #[]⟩ : Block Float) with ⟨_, _, reads, remade⟩
  rcases remade ⟨rfl, by decide⟩ (by decide) with ⟨listed, listed_eq, listed_made⟩
  rcases reads ⟨2, 0, #[]⟩ rfl with ⟨rows_eq, row_eq⟩
  refine ⟨(refused _).mpr ⟨2, 1, 0, ⟨rfl, rfl, by decide, by decide⟩, rfl, rfl⟩, ?_⟩
  exact ⟨⟨2, 0, #[]⟩, listed, rfl, rows_eq, (row_eq (by decide) 1 [] rfl).1, listed_eq, listed_made⟩

end LowRank.Block
