import Mathlib.Data.List.Chain
import Stencil.Template.Compile

/-!
# Chunks

Joining running characters into texts loses nothing: `Chunk.unpack` takes the chunks apart again
(`Chunk.unpack_ofPieces`), and a change of the tokens alone passes through the joining
(`Chunk.ofPieces_map`). It leaves no text empty and no two texts side by side
(`Chunk.joined_ofPieces`).
-/

namespace Stencil

namespace Chunk

variable {α β : Type}

/-- The characters and tokens of some chunks, one by one. -/
def unpack : List (Chunk α) → List (Char ⊕ α)
  | [] => []
  | .text s :: chunks => s.toList.map .inl ++ unpack chunks
  | .token a :: chunks => .inr a :: unpack chunks

theorem unpack_flush (run : List Char) (chunks : List (Chunk α)) :
    unpack (gather.flush run chunks) = run.reverse.map .inl ++ unpack chunks := by
  cases run with
  | nil => rfl
  | cons c cs => simp [gather.flush, unpack]

theorem unpack_gather (run : List Char) (pieces : List (Char ⊕ α)) :
    unpack (gather run pieces) = run.reverse.map .inl ++ pieces := by
  induction pieces generalizing run with
  | nil => rw [gather, unpack_flush, unpack]
  | cons p pieces ih =>
    cases p with
    | inl c => rw [gather, ih]; simp
    | inr a => rw [gather, unpack_flush, unpack, ih]; simp

/-- Taking chunks apart gives back what was joined. -/
theorem unpack_ofPieces (pieces : List (Char ⊕ α)) : unpack (ofPieces pieces) = pieces := by
  rw [ofPieces, unpack_gather]
  simp

theorem token_mem_iff {a : α} {chunks : List (Chunk α)} :
    .token a ∈ chunks ↔ .inr a ∈ unpack chunks := by
  induction chunks with
  | nil => simp [unpack]
  | cons x chunks ih => cases x <;> simp [unpack, ih]

/-- The tokens of chunks are the tokens that were joined. -/
theorem token_mem_ofPieces {a : α} {pieces : List (Char ⊕ α)} :
    .token a ∈ ofPieces pieces ↔ .inr a ∈ pieces := by
  rw [token_mem_iff, unpack_ofPieces]

/-- What is taken from the tokens of chunks is taken from the tokens that were joined. -/
theorem filterMap_unpack {f : Chunk α → Option β} (hf : ∀ s, f (.text s) = none)
    (chunks : List (Chunk α)) :
    chunks.filterMap f =
      (unpack chunks).filterMap (Sum.elim (fun _ => none) fun a => f (.token a)) := by
  induction chunks with
  | nil => rfl
  | cons x chunks ih =>
    cases x with
    | text s =>
      have hnone : (s.toList.map (.inl : Char → Char ⊕ α)).filterMap
          (Sum.elim (fun _ => none) fun a => f (.token a)) = [] := by
        simp
      rw [List.filterMap_cons_none (hf s), unpack, List.filterMap_append, hnone, ih,
        List.nil_append]
    | token a => rw [unpack, List.filterMap_cons, List.filterMap_cons, Sum.elim_inr, ih]

/-- Of two neighbours one is a token. -/
def Apart : Chunk α → Chunk α → Prop
  | .text _, .text _ => False
  | _, _ => True

/-- No text is empty, and no two texts are neighbours. -/
structure Joined (chunks : List (Chunk α)) : Prop where
  ne_empty : ∀ s, .text s ∈ chunks → s ≠ ""
  apart : chunks.IsChain Apart

theorem Joined.cons_token {chunks : List (Chunk α)} (h : Joined chunks) (a : α) :
    Joined (.token a :: chunks) where
  ne_empty s hs := h.ne_empty s (by simpa using hs)
  apart := List.isChain_cons.2 ⟨fun _ _ => trivial, h.apart⟩

/-- A run of characters may be flushed before chunks that begin with no text. -/
theorem Joined.flush {chunks : List (Chunk α)} (h : Joined chunks)
    (hhead : ∀ s, .text s ∉ chunks.head?) (run : List Char) :
    Joined (gather.flush run chunks) := by
  cases run with
  | nil => exact h
  | cons c cs =>
    refine ⟨fun s hs => ?_, List.isChain_cons.2 ⟨fun x hx => ?_, h.apart⟩⟩
    · rcases List.mem_cons.1 hs with hs | hs
      · cases hs
        simp
      · exact h.ne_empty s hs
    · cases x with
      | text s => exact absurd hx (hhead s)
      | token a => trivial

theorem joined_gather (run : List Char) (pieces : List (Char ⊕ α)) :
    Joined (gather run pieces) := by
  induction pieces generalizing run with
  | nil => exact Joined.flush ⟨by simp, .nil⟩ (by simp) run
  | cons p pieces ih =>
    cases p with
    | inl c => exact ih (c :: run)
    | inr a => exact Joined.flush ((ih []).cons_token a) (by simp) run

/-- Joining leaves no text empty and no two texts side by side. -/
theorem joined_ofPieces (pieces : List (Char ⊕ α)) : Joined (ofPieces pieces) :=
  joined_gather [] pieces

/-- A chunk with its token changed. -/
def map (f : α → β) : Chunk α → Chunk β
  | .text s => .text s
  | .token a => .token (f a)

theorem map_map {γ : Type} (g : β → γ) (f : α → β) (x : Chunk α) :
    (x.map f).map g = x.map (g ∘ f) := by
  cases x <;> rfl

theorem map_flush (f : α → β) (run : List Char) (chunks : List (Chunk α)) :
    (gather.flush run chunks).map (map f) = gather.flush run (chunks.map (map f)) := by
  cases run <;> rfl

theorem map_gather (f : α → β) (run : List Char) (pieces : List (Char ⊕ α)) :
    (gather run pieces).map (map f) = gather run (pieces.map (Sum.map id f)) := by
  induction pieces generalizing run with
  | nil => exact map_flush f run []
  | cons p pieces ih =>
    cases p with
    | inl c => exact ih (c :: run)
    | inr a =>
      rw [gather, map_flush, List.map_cons, ih]
      rfl

/-- Changing the tokens before or after the joining is the same. -/
theorem ofPieces_map (f : α → β) (pieces : List (Char ⊕ α)) :
    (ofPieces pieces).map (map f) = ofPieces (pieces.map (Sum.map id f)) :=
  map_gather f [] pieces

end Chunk

/-- A search for the largest group, with its step given by what it does to each chunk. -/
theorem foldl_group_le_iff {f : Nat → Chunk Filler → Nat} (htext : ∀ m s, f m (.text s) = m)
    (hgroup : ∀ m g, f m (.token (.group g)) = max m g)
    (hvariable : ∀ m v, f m (.token (.variable v)) = m) (m n : Nat) (parts : List (Chunk Filler)) :
    parts.foldl f m ≤ n ↔ m ≤ n ∧ ∀ g, .token (.group g) ∈ parts → g ≤ n := by
  induction parts generalizing m with
  | nil => simp
  | cons p parts ih =>
    rw [List.foldl_cons, ih]
    rcases p with s | g | v
    · simp [htext]
    · simp only [hgroup, Nat.max_le, List.mem_cons, Chunk.token.injEq, Filler.group.injEq]
      constructor
      · rintro ⟨⟨hm, hg⟩, h⟩
        refine ⟨hm, ?_⟩
        rintro k (rfl | hk)
        · exact hg
        · exact h k hk
      · rintro ⟨hm, h⟩
        exact ⟨⟨hm, h g (Or.inl rfl)⟩, fun k hk => h k (Or.inr hk)⟩
    · simp [hvariable]

/-- The largest group is within a bound when all groups are. -/
theorem largestGroup_le_iff {n : Nat} {parts : List (Chunk Filler)} :
    largestGroup parts ≤ n ↔ ∀ g, .token (.group g) ∈ parts → g ≤ n := by
  unfold largestGroup
  rw [foldl_group_le_iff (fun _ _ => rfl) (fun _ _ => rfl) (fun _ _ => rfl)]
  simp

end Stencil
