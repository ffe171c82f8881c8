import LowRank.CommandLine.Run
import LowRank.Proofs.Session.Dense

/-!
# Seeding the inputs of a line

Before a line is executed its inputs are gone through in order, and a name that is not bound by then
gets a random matrix. A name that occurs twice is bound at its second occurrence. The matrices
therefore go to the missing names, each once and with the shape of its first position, and their
seeds are counted on from the last one that was used.

The generator is any one that can draw from the range of the seeded cells. The matrices are small,
so that without a limit there is room for them unless a very great number of lines has been run.
-/

namespace LowRank

namespace CommandLine

/-- The entries whose names are not bound, of each name the first one. -/
def missing {β : Type} (bound : String → Bool) : List (String × β) → List (String × β)
  | [] => []
  | entry :: rest =>
      if bound entry.1 then missing bound rest
      else entry :: missing (fun name => name == entry.1 || bound name) rest

section Missing

variable {β : Type} (bound : String → Bool) (entries : List (String × β))

theorem missing_sublist : (missing bound entries).Sublist entries := by
  induction entries generalizing bound with
  | nil => exact .slnil
  | cons entry rest ih =>
      simp only [missing]
      split
      · exact (ih bound).cons entry
      · exact (ih _).cons_cons entry

theorem mem_map_fst_missing (name : String) :
    name ∈ (missing bound entries).map Prod.fst ↔
      name ∈ entries.map Prod.fst ∧ bound name = false := by
  induction entries generalizing bound with
  | nil => simp [missing]
  | cons entry rest ih =>
      by_cases same : name = entry.1
      · subst same
        cases held : bound entry.1 with
        | true => simp [missing, held, ih]
        | false => simp [missing, held]
      · cases held : bound entry.1 with
        | true => simp [missing, held, ih, same]
        | false => simp [missing, held, ih, same]

theorem nodup_missing : ((missing bound entries).map Prod.fst).Nodup := by
  induction entries generalizing bound with
  | nil => exact .nil
  | cons entry rest ih =>
      simp only [missing]
      split
      · exact ih bound
      · rw [List.map_cons, List.nodup_cons, mem_map_fst_missing]
        refine ⟨?_, ih _⟩
        rintro ⟨_, unbound⟩
        simp at unbound

theorem eq_append_of_mem_missing (entry : String × β) (missed : entry ∈ missing bound entries) :
    ∃ before after, entries = before ++ entry :: after ∧ entry.1 ∉ before.map Prod.fst := by
  induction entries generalizing bound with
  | nil => cases missed
  | cons first rest ih =>
      have unbound : bound entry.1 = false :=
        ((mem_map_fst_missing bound _ entry.1).mp (List.mem_map_of_mem missed)).2
      simp only [missing] at missed
      split at missed
      · rename_i held
        rcases ih bound missed with ⟨before, after, rfl, absent⟩
        refine ⟨first :: before, after, rfl, ?_⟩
        have different : entry.1 ≠ first.1 := by
          intro same
          rw [same, held] at unbound
          cases unbound
        simp [different, absent]
      · rcases List.mem_cons.mp missed with rfl | later
        · exact ⟨[], rest, rfl, by simp⟩
        · rcases ih _ later with ⟨before, after, rfl, absent⟩
          refine ⟨first :: before, after, rfl, ?_⟩
          have unboundLater := ((mem_map_fst_missing _ _ entry.1).mp (List.mem_map_of_mem later)).2
          simp only [Bool.or_eq_false_iff, beq_eq_false_iff_ne] at unboundLater
          simp [unboundLater.1, absent]

end Missing

/-- A built block with no more rows and columns than the seeded blocks have. -/
structure Compact (block : Block Float) : Prop where
  built : block.Built
  rows_le : block.rows ≤ seededRows
  cols_le : block.cols ≤ seededRows

theorem Compact.cellCount_le {block : Block Float} (compact : Compact block) :
    block.cellCount ≤ 36 := by
  have cells := Nat.mul_le_mul compact.rows_le compact.cols_le
  exact Nat.le_trans (Nat.mod_le _ _) cells

theorem Compact.bytes_le {block : Block Float} (compact : Compact block) :
    block.bytes ≤ 288 := by
  have cells := compact.cellCount_le
  have bytes := Nat.mod_le (block.cellCount * 8) Word.size
  simp only [Block.bytes, Word.wrap]
  omega

/-- Whether a program can draw the cells that it seeds. -/
def Host.Drawable {σ : Type} (host : Host σ) : Prop :=
  (host.sampler.between? 0.1 1.0).isSome = true

section Host

variable {σ : Type} (host : Host σ)

theorem Host.Drawable.isSome_block? {host : Host σ} (drawable : host.Drawable) (seed : UInt64)
    (rows cols : Nat) : (host.sampler.block? (seededSpec seed) rows cols).isSome = true := by
  simp only [Random.Sampler.block?, Option.isSome_map, Random.Sampler.draw?]
  split
  · exact drawable
  · rfl

theorem compact_of_block? (seed : UInt64) (shape : Nat × Nat) (shape_mem : shape ∈ seededShapes)
    (block : Block Float)
    (drawn : host.sampler.block? (seededSpec seed) shape.1 shape.2 = some block) :
    Compact block ∧ (block.rows, block.cols) = shape := by
  have small : ∀ shape ∈ seededShapes, shape.1 ≤ seededRows ∧ shape.2 ≤ seededRows ∧
      shape.1 * shape.2 < Word.size := by
    decide
  rcases small shape shape_mem with ⟨rows_le, cols_le, countable⟩
  rcases Option.map_eq_some_iff.mp drawn with ⟨draw, _, rfl⟩
  exact ⟨⟨.drawn _ _ _ _ _ countable, rows_le, cols_le⟩, rfl⟩

/-- What seeding makes of a store: the missing names are bound, in order, and nothing else is. -/
structure Seeds (before : Progress) (entries : List (String × Nat × Nat)) (after : Progress) :
    Prop where
  kept : ∀ name, before.store.isBound name = true →
    after.store.value? name = before.store.value? name
  drawn : ∀ index name shape,
    (missing before.store.isBound entries)[index]? = some (name, shape) →
      ∃ block,
        host.sampler.block? (seededSpec (before.seed + .ofNat (index + 1))) shape.1 shape.2 =
          some block ∧
        after.store.value? name = some (.matrix block)
  isBound_iff : ∀ name, after.store.isBound name = true ↔
    before.store.isBound name = true ∨ name ∈ entries.map Prod.fst
  pins_eq : ∀ name, after.store.pins name = before.store.pins name
  limit_eq : after.store.limit = before.store.limit
  seed_eq : after.seed = before.seed + .ofNat (missing before.store.isBound entries).length
  consistent : before.store.Consistent → after.store.Consistent
  used_le : (∀ entry ∈ entries, entry.2 ∈ seededShapes) →
    after.store.used ≤ before.store.used + 288 * entries.length

namespace Seeds

variable {host}

theorem nil (progress : Progress) : Seeds host progress [] progress := by
  refine ⟨fun _ _ => rfl, ?_, by simp, fun _ => rfl, rfl, ?_, id, fun _ => Nat.le_refl _⟩
  · intro index name shape found
    cases found
  · simp [missing]

theorem cons_of_bound {before after : Progress} {entry : String × Nat × Nat}
    {rest : List (String × Nat × Nat)} (held : before.store.isBound entry.1 = true)
    (seeds : Seeds host before rest after) : Seeds host before (entry :: rest) after := by
  have same : missing before.store.isBound (entry :: rest) = missing before.store.isBound rest := by
    simp [missing, held]
  refine ⟨seeds.kept, ?_, ?_, seeds.pins_eq, seeds.limit_eq, ?_, seeds.consistent, ?_⟩
  · rw [same]
    exact seeds.drawn
  · intro name
    rw [seeds.isBound_iff, List.map_cons, List.mem_cons]
    constructor
    · rintro (bound | later)
      · exact Or.inl bound
      · exact Or.inr (Or.inr later)
    · rintro (bound | rfl | later)
      · exact Or.inl bound
      · exact Or.inl held
      · exact Or.inr later
  · rw [same]
    exact seeds.seed_eq
  · intro shapes
    have used_le := seeds.used_le fun other other_mem => shapes other (.tail _ other_mem)
    rw [List.length_cons]
    omega

theorem cons_of_unbound {before after : Progress} {name : String} {shape : Nat × Nat}
    {rest : List (String × Nat × Nat)} (block : Block Float) (store : Store Float)
    (unbound : before.store.isBound name = false)
    (drawn : host.sampler.block? (seededSpec (before.seed + 1)) shape.1 shape.2 = some block)
    (bound : before.store.bind name (.matrix block) = .ok store)
    (seeds : Seeds host ⟨store, before.seed + 1⟩ rest after) :
    Seeds host before ((name, shape) :: rest) after := by
  have isBound_eq := before.store.isBound_of_bind name _ store bound
  have cons : missing before.store.isBound ((name, shape) :: rest) =
      (name, shape) :: missing store.isBound rest := by
    simp [missing, unbound, funext isBound_eq]
  have held := before.store.value?_of_bind name _ store bound
  refine ⟨?_, ?_, ?_, ?_, ?_, ?_, ?_, ?_⟩
  · intro other otherBound
    have different : other ≠ name := by
      rintro rfl
      rw [unbound] at otherBound
      cases otherBound
    rw [seeds.kept other (by simp [isBound_eq, otherBound]), held, if_neg different]
  · rw [cons]
    intro index other otherShape found
    cases index with
    | zero =>
        cases found
        refine ⟨block, drawn, ?_⟩
        rw [seeds.kept name (by simp [isBound_eq]), held, if_pos rfl]
    | succ index =>
        have later := seeds.drawn index other otherShape found
        have seed_eq : (1 : UInt64) + .ofNat (index + 1) = .ofNat (index + 1 + 1) := by
          rw [UInt64.ofNat_add (index + 1) 1, UInt64.add_comm]
          rfl
        rwa [UInt64.add_assoc, seed_eq] at later
  · intro other
    rw [seeds.isBound_iff, isBound_eq]
    simp [or_assoc, or_left_comm]
  · intro other
    rw [seeds.pins_eq, before.store.pins_of_bind name _ store bound]
  · rw [seeds.limit_eq, before.store.limit_of_bind name _ store bound]
  · rw [seeds.seed_eq, cons, UInt64.add_assoc, List.length_cons, UInt64.ofNat_add,
      UInt64.add_comm 1]
    rfl
  · intro consistent
    exact seeds.consistent (consistent.bind_consistent name _ store bound)
  · intro shapes
    have used_le := seeds.used_le fun other other_mem => shapes other (.tail _ other_mem)
    have first_le := before.store.used_of_bind_le name _ store bound
    have bytes_le : (Value.matrix block).bytes ≤ 288 :=
      (compact_of_block? host _ shape (shapes _ (.head _)) block drawn).1.bytes_le
    change after.store.used ≤ store.used + 288 * rest.length at used_le
    rw [List.length_cons]
    omega

section Values

variable {before after : Progress} {entries : List (String × Nat × Nat)}
  (seeds : Seeds host before entries after)
include seeds

/-- A name that was not bound has a random matrix of the shape of one of its positions. -/
theorem value?_of_unbound (name : String) (unbound : before.store.isBound name = false)
    (name_mem : name ∈ entries.map Prod.fst) :
    ∃ seed shape block, (name, shape) ∈ entries ∧
      host.sampler.block? (seededSpec seed) shape.1 shape.2 = some block ∧
      after.store.value? name = some (.matrix block) := by
  have missed : name ∈ (missing before.store.isBound entries).map Prod.fst :=
    (mem_map_fst_missing _ entries name).mpr ⟨name_mem, unbound⟩
  rcases List.mem_map.mp missed with ⟨⟨_, shape⟩, entry_mem, rfl⟩
  rcases List.getElem?_of_mem entry_mem with ⟨index, found⟩
  rcases seeds.drawn index _ shape found with ⟨block, drawn, held⟩
  exact ⟨_, shape, block, (missing_sublist _ entries).subset entry_mem, drawn, held⟩

/-- Seeding binds compact matrices only. -/
theorem compact (shapes : ∀ entry ∈ entries, entry.2 ∈ seededShapes)
    (compact : before.store.AllMatrices Compact) : after.store.AllMatrices Compact := by
  intro name block found
  have bound : after.store.isBound name = true := by
    rw [Store.isBound_eq_isSome_value?, found]
    rfl
  cases held : before.store.isBound name with
  | true =>
      rw [seeds.kept name held] at found
      exact compact name block found
  | false =>
      have name_mem : name ∈ entries.map Prod.fst := by
        simpa [held] using (seeds.isBound_iff name).mp bound
      rcases seeds.value?_of_unbound name held name_mem with
        ⟨seed, shape, other, used, drawn, value_eq⟩
      rw [found] at value_eq
      cases value_eq
      exact (compact_of_block? host seed shape (shapes _ used) block drawn).1

end Values

end Seeds

section SeedName

variable (progress : Progress) (name : String) (shape : Nat × Nat)

theorem seedName_of_bound (held : progress.store.isBound name = true) :
    seedName host progress name shape = .ok progress :=
  if_pos held

section Unbound

variable (unbound : progress.store.isBound name = false)
include unbound

theorem seedName_of_undrawable
    (absent : host.sampler.block? (seededSpec (progress.seed + 1)) shape.1 shape.2 = none) :
    seedName host progress name shape = .error (.undrawable name) := by
  simp only [seedName, unbound, Bool.false_eq_true, if_false, absent]

variable (block : Block Float)
  (drawn : host.sampler.block? (seededSpec (progress.seed + 1)) shape.1 shape.2 = some block)
include drawn

theorem seedName_of_bind_error (error : Error)
    (refused : progress.store.bind name (.matrix block) = .error error) :
    seedName host progress name shape = .error error := by
  simp only [seedName, unbound, Bool.false_eq_true, if_false, drawn, refused]
  rfl

theorem seedName_of_bind_ok (store : Store Float)
    (bound : progress.store.bind name (.matrix block) = .ok store) :
    seedName host progress name shape = .ok ⟨store, progress.seed + 1⟩ := by
  simp only [seedName, unbound, Bool.false_eq_true, if_false, drawn, bound]
  rfl

end Unbound

end SeedName

/-- Seeding that succeeds does what it should. -/
theorem seeds_of_ok (progress after : Progress) (entries : List (String × Nat × Nat))
    (seeded : entries.foldlM
      (fun progress entry => seedName host progress entry.1 entry.2) progress = .ok after) :
    Seeds host progress entries after := by
  induction entries generalizing progress with
  | nil =>
      cases seeded
      exact .nil _
  | cons entry rest ih =>
      rcases entry with ⟨name, shape⟩
      rw [List.foldlM_cons] at seeded
      cases held : progress.store.isBound name with
      | true =>
          rw [seedName_of_bound host progress name shape held] at seeded
          exact (ih progress seeded).cons_of_bound held
      | false =>
          cases drawn : host.sampler.block? (seededSpec (progress.seed + 1)) shape.1 shape.2 with
          | none =>
              rw [seedName_of_undrawable host progress name shape held drawn] at seeded
              cases seeded
          | some block =>
              cases bound : progress.store.bind name (.matrix block) with
              | error error =>
                  rw [seedName_of_bind_error host progress name shape held block drawn error
                    bound] at seeded
                  cases seeded
              | ok store =>
                  rw [seedName_of_bind_ok host progress name shape held block drawn store
                    bound] at seeded
                  exact (ih _ seeded).cons_of_unbound block store held drawn bound

/-- Seeding fails only for bytes that a word cannot count. -/
theorem uncountable_of_seeding (drawable : host.Drawable) (progress : Progress)
    (unlimited : progress.store.limit = none) (entries : List (String × Nat × Nat))
    (shapes : ∀ entry ∈ entries, entry.2 ∈ seededShapes) (error : Error)
    (failed : entries.foldlM
      (fun progress entry => seedName host progress entry.1 entry.2) progress = .error error) :
    (∃ name needed shortage, error = .outOfMemory name needed shortage) ∧
      Word.size ≤ progress.store.used + 288 * entries.length := by
  induction entries generalizing progress with
  | nil => cases failed
  | cons entry rest ih =>
      rcases entry with ⟨name, shape⟩
      have restShapes : ∀ entry ∈ rest, entry.2 ∈ seededShapes :=
        fun other other_mem => shapes other (.tail _ other_mem)
      rw [List.foldlM_cons] at failed
      rw [List.length_cons]
      cases held : progress.store.isBound name with
      | true =>
          rw [seedName_of_bound host progress name shape held] at failed
          rcases ih progress unlimited restShapes failed with ⟨ranOut, exceeds⟩
          exact ⟨ranOut, by omega⟩
      | false =>
          rcases Option.isSome_iff_exists.mp
            (drawable.isSome_block? (progress.seed + 1) shape.1 shape.2) with ⟨block, drawn⟩
          have bytes_le : (Value.matrix block).bytes ≤ 288 :=
            (compact_of_block? host _ shape (shapes _ (.head _)) block drawn).1.bytes_le
          cases bound : progress.store.bind name (.matrix block) with
          | error other =>
              rw [seedName_of_bind_error host progress name shape held block drawn other
                bound] at failed
              cases failed
              rcases progress.store.uncountable_of_bind name _ unlimited error bound with
                ⟨rfl, exceeds⟩
              exact ⟨⟨_, _, _, rfl⟩, by omega⟩
          | ok store =>
              rw [seedName_of_bind_ok host progress name shape held block drawn store
                bound] at failed
              have unlimitedAfter := progress.store.limit_of_bind name _ store bound
              have used_le := progress.store.used_of_bind_le name _ store bound
              rcases ih _ (unlimitedAfter.trans unlimited) restShapes failed with
                ⟨ranOut, exceeds⟩
              refine ⟨ranOut, ?_⟩
              change Word.size ≤ store.used + 288 * rest.length at exceeds
              omega

end Host

/-- The names that an instruction acquires, each with the shape of its position. -/
def positions (instruction : Instruction) : List (String × Nat × Nat) :=
  instruction.acquiredNames.zip seededShapes

/-- There is a shape for every position. -/
theorem map_fst_positions (instruction : Instruction) :
    (positions instruction).map Prod.fst = instruction.acquiredNames := by
  apply List.map_fst_zip
  rw [Instruction.acquiredNames, List.length_map, Inputs.length_toList]
  split <;> decide

theorem mem_seededShapes_of_mem_positions (instruction : Instruction) :
    ∀ entry ∈ positions instruction, entry.2 ∈ seededShapes :=
  fun _ entry_mem => (List.of_mem_zip entry_mem).2

theorem length_positions_le (instruction : Instruction) : (positions instruction).length ≤ 4 := by
  rw [positions, List.length_zip]
  exact Nat.min_le_right _ _

end CommandLine

end LowRank
