import Mathlib.Tactic

/-!
# Blocks of bit strings with a common prefix

A block `⟨base, len⟩` stands for the strings that agree with `base` on their first `len`
positions.  Splitting a block fixes one more position: one half *keeps* the base, the other half
is *given* away under the base with that position flipped.

* `Apart` — two blocks disagree at a position both of them fix.  It is disjointness
  (`apart_iff_disjoint`), in the form proofs by splitting use.
* `keep_apart_give`, `mem_keep_or_give` — the two halves are apart and cover the block.
* `Block.gives` — what a block gives away when it is split several times.
* `Apartados` — the blocks in the hands of some holders, and those set aside for one, are apart;
  `Apartados.split`, `Apartados.shrink` and `Apartados.take` are what can happen to them.
* `Ofrecidos` — the blocks of holders and the ones on offer to anybody are apart.
* `Partition` — a list of blocks that are pairwise apart and cover every string;
  `Partition.split` says that splitting one of them gives a partition again, and
  `Partition.existsUnique` that every string lies in exactly one block.
-/

namespace PrefixBlock

/-- The strings that agree with `base` on the first `len` positions. -/
structure Block where
  base : ℕ → Bool
  len : ℕ

namespace Block

/-- The string `x` lies in the block. -/
def Mem (x : ℕ → Bool) (b : Block) : Prop := ∀ p < b.len, x p = b.base p

/-- The half of a block that its base lies in. -/
def keep (b : Block) : Block := ⟨b.base, b.len + 1⟩

/-- The other half, named by the base with the newly fixed position flipped. -/
def give (b : Block) : Block := ⟨Function.update b.base b.len (!b.base b.len), b.len + 1⟩

end Block

open Block

lemma mem_base (b : Block) : Mem b.base b := fun _ _ => rfl

/-- Two blocks are apart when they disagree at a position that both fix. -/
def Apart (b c : Block) : Prop := ∃ p, p < b.len ∧ p < c.len ∧ b.base p ≠ c.base p

lemma Apart.symm {b c : Block} (h : Apart b c) : Apart c b := by
  obtain ⟨p, hb, hc, hne⟩ := h
  exact ⟨p, hc, hb, hne.symm⟩

lemma Apart.base_ne {b c : Block} (h : Apart b c) : b.base ≠ c.base := by
  obtain ⟨p, _, _, hne⟩ := h
  exact fun heq => hne (congrFun heq p)

/-- No string lies in two blocks that are apart. -/
lemma Apart.disjoint {b c : Block} (h : Apart b c) {x : ℕ → Bool} (hb : Mem x b) : ¬ Mem x c := by
  obtain ⟨p, hpb, hpc, hne⟩ := h
  exact fun hc => hne ((hb p hpb).symm.trans (hc p hpc))

/-- Being apart is having no string in common. -/
theorem apart_iff_disjoint {b c : Block} : Apart b c ↔ ∀ x, Mem x b → ¬ Mem x c := by
  constructor
  · exact fun h x hb => h.disjoint hb
  · intro h
    by_contra hno
    have hagree : ∀ p, p < b.len → p < c.len → b.base p = c.base p := by
      intro p hb hc
      by_contra hne
      exact hno ⟨p, hb, hc, hne⟩
    -- the base of the longer block lies in both
    rcases le_total b.len c.len with hle | hle
    · exact h c.base (fun p hp => (hagree p hp (lt_of_lt_of_le hp hle)).symm) (mem_base c)
    · exact h b.base (mem_base b) (fun p hp => hagree p (lt_of_lt_of_le hp hle) hp)

/-- A block that fixes the same positions as `b`, and more, stays apart from what `b` is apart
from. -/
lemma Apart.mono {b b' c : Block} (h : Apart b c) (hlen : b.len ≤ b'.len) (hmem : Mem b'.base b) :
    Apart b' c := by
  obtain ⟨p, hb, hc, hne⟩ := h
  exact ⟨p, lt_of_lt_of_le hb hlen, hc, by rw [hmem p hb]; exact hne⟩

lemma mem_give_base (b : Block) : Mem b.give.base b := by
  intro p hp
  simp [give, Function.update_of_ne (Nat.ne_of_lt hp)]

lemma Apart.keep {b c : Block} (h : Apart b c) : Apart b.keep c :=
  h.mono (Nat.le_succ _) (mem_base b)

lemma Apart.give {b c : Block} (h : Apart b c) : Apart b.give c :=
  h.mono (Nat.le_succ _) (mem_give_base b)

/-- The two halves of a block are apart. -/
lemma keep_apart_give (b : Block) : Apart b.keep b.give :=
  ⟨b.len, Nat.lt_succ_self _, Nat.lt_succ_self _, by simp [Block.keep, Block.give]⟩

/-- The two halves of a block cover it. -/
lemma mem_keep_or_give {b : Block} {x : ℕ → Bool} (h : Mem x b) : Mem x b.keep ∨ Mem x b.give := by
  by_cases hx : x b.len = b.base b.len
  · refine Or.inl fun p hp => ?_
    rcases Nat.lt_succ_iff_lt_or_eq.mp hp with hp | rfl
    · exact h p hp
    · exact hx
  · refine Or.inr fun p hp => ?_
    rcases Nat.lt_succ_iff_lt_or_eq.mp hp with hp | rfl
    · rw [mem_give_base b p hp]; exact h p hp
    · simpa [Block.give] using Bool.eq_not_of_ne hx

/-! ## Giving halves away again and again -/

namespace Block

/-- The block after it has given away `r` halves. -/
def keepN (b : Block) (r : ℕ) : Block := ⟨b.base, b.len + r⟩

/-- The `r` halves it has given away. -/
def gives (b : Block) (r : ℕ) : List Block := (List.range r).map fun t => (b.keepN t).give

end Block

lemma Apart.keepN {b c : Block} (h : Apart b c) (r : ℕ) : Apart (b.keepN r) c :=
  h.mono (Nat.le_add_right _ _) (mem_base b)

lemma Apart.of_mem_gives {b c g : Block} {r : ℕ} (h : Apart b c) (hg : g ∈ b.gives r) : Apart g c := by
  obtain ⟨t, -, rfl⟩ := List.mem_map.mp hg
  exact (h.keepN t).give

/-- What a block has left is apart from what it has given away. -/
lemma keepN_apart_of_mem_gives {b g : Block} {r : ℕ} (hg : g ∈ b.gives r) : Apart (b.keepN r) g := by
  obtain ⟨t, ht, rfl⟩ := List.mem_map.mp hg
  have hlt : b.len + t < b.len + r := Nat.add_lt_add_left (List.mem_range.mp ht) _
  exact ⟨b.len + t, hlt, Nat.lt_succ_self _, by simp [Block.keepN, Block.give]⟩

/-- What it has given away is pairwise apart. -/
lemma pairwise_gives (b : Block) (r : ℕ) : (b.gives r).Pairwise Apart := by
  rw [Block.gives, List.pairwise_map]
  refine List.pairwise_lt_range.imp ?_
  intro t u htu
  refine ⟨b.len + t, Nat.lt_succ_self _, Nat.lt_succ_of_lt (Nat.add_lt_add_left htu _), ?_⟩
  simp [Block.keepN, Block.give, htu.ne]

/-! ## Partitions -/

/-- The blocks are pairwise apart and every string lies in one of them. -/
structure Partition (bs : List Block) : Prop where
  apart : bs.Pairwise Apart
  cover : ∀ x, ∃ b ∈ bs, Mem x b

/-- The block of length zero, whatever its base, is a partition by itself. -/
lemma partition_whole (base : ℕ → Bool) : Partition [⟨base, 0⟩] where
  apart := by simp
  cover x := ⟨⟨base, 0⟩, by simp, fun p hp => absurd hp (Nat.not_lt_zero p)⟩

/-- Pairwise apart blocks stay pairwise apart when one of them is split. -/
lemma pairwise_split {bs cs : List Block} {b : Block} (h : (bs ++ b :: cs).Pairwise Apart) :
    (bs ++ b.keep :: cs ++ [b.give]).Pairwise Apart := by
  rw [List.pairwise_append, List.pairwise_cons] at h
  obtain ⟨hbs, ⟨hb, hcs⟩, hcross⟩ := h
  rw [List.pairwise_append, List.pairwise_append, List.pairwise_cons]
  refine ⟨⟨hbs, ⟨fun c hc => (hb c hc).keep, hcs⟩, ?_⟩, List.pairwise_singleton _ _, ?_⟩
  · intro c hc d hd
    rcases List.mem_cons.mp hd with rfl | hd
    · exact ((hcross c hc b (by simp)).symm.keep).symm
    · exact hcross c hc d (List.mem_cons_of_mem _ hd)
  · intro c hc d hd
    obtain rfl := List.mem_singleton.mp hd
    rcases List.mem_append.mp hc with hc | hc
    · exact ((hcross c hc b (by simp)).symm.give).symm
    · rcases List.mem_cons.mp hc with rfl | hc
      · exact keep_apart_give b
      · exact ((hb c hc).give).symm

/-- **Splitting keeps a partition.**  One block is replaced by the half it keeps, and the half it
gives away joins the list. -/
theorem Partition.split {bs cs : List Block} {b : Block} (h : Partition (bs ++ b :: cs)) :
    Partition (bs ++ b.keep :: cs ++ [b.give]) where
  apart := pairwise_split h.apart
  cover x := by
    obtain ⟨c, hc, hx⟩ := h.cover x
    rcases List.mem_append.mp hc with hc | hc
    · exact ⟨c, by simp [hc], hx⟩
    · rcases List.mem_cons.mp hc with rfl | hc
      · rcases mem_keep_or_give hx with hk | hg
        · exact ⟨_, by simp, hk⟩
        · exact ⟨_, by simp, hg⟩
      · exact ⟨c, by simp [hc], hx⟩

/-- **Exactly one block.**  In a partition every string lies in the block at exactly one index. -/
theorem Partition.existsUnique {bs : List Block} (h : Partition bs) (x : ℕ → Bool) :
    ∃! i, ∃ hi : i < bs.length, Mem x bs[i] := by
  obtain ⟨b, hb, hx⟩ := h.cover x
  obtain ⟨i, hi, rfl⟩ := List.getElem_of_mem hb
  refine ⟨i, ⟨hi, hx⟩, ?_⟩
  rintro j ⟨hj, hxj⟩
  by_contra hne
  rcases Nat.lt_or_gt_of_ne hne with hlt | hlt
  · exact (List.pairwise_iff_getElem.mp h.apart j i hj hi hlt).disjoint hxj hx
  · exact (List.pairwise_iff_getElem.mp h.apart i j hi hj hlt).disjoint hx hxj

/-! ## Holders

Each holder has at most one block of its own, and other blocks are set aside for holders that have
not taken them yet.
-/

section Holders

variable {κ : Type*} {own : κ → Option Block} {pend pend' : κ → Block → Prop}

/-- The block is in the hands of `x`: its own, or one set aside for it under another base. -/
def Holds (own : κ → Option Block) (pend : κ → Block → Prop) (x : κ) (b : Block) : Prop :=
  own x = some b ∨ pend x b ∧ ∀ c, own x = some c → c.base ≠ b.base

/-- Whatever is in the hands of holders is apart. -/
def Apartados (own : κ → Option Block) (pend : κ → Block → Prop) : Prop :=
  ∀ x y b c, Holds own pend x b → Holds own pend y c → x = y ∧ b = c ∨ Apart b c

/-- A single holder with a block of its own. -/
lemma apartados_single [DecidableEq κ] (x : κ) (b : Block) (hpend : ∀ y c, ¬ pend y c) :
    Apartados (Function.update (fun _ => none) x (some b)) pend := by
  have hself : ∀ y c, Holds (Function.update (fun _ : κ => none) x (some b)) pend y c →
      x = y ∧ b = c := by
    rintro y c (hown | hp)
    · by_cases hy : y = x
      · subst hy
        rw [Function.update_self, Option.some.injEq] at hown
        exact ⟨rfl, hown⟩
      · rw [Function.update_of_ne hy] at hown
        exact absurd hown (by simp)
    · exact absurd hp.1 (hpend y c)
  intro y z c d hc hd
  obtain ⟨rfl, rfl⟩ := hself y c hc
  obtain ⟨rfl, rfl⟩ := hself z d hd
  exact Or.inl ⟨rfl, rfl⟩

/-- A block set aside has been in the hands of its holder, or the holder had it as its own. -/
lemma holds_base {x : κ} {b : Block} (h : pend x b) : ∃ c, Holds own pend x c ∧ c.base = b.base := by
  by_cases hown : ∃ c, own x = some c ∧ c.base = b.base
  · obtain ⟨c, hc, hbase⟩ := hown
    exact ⟨c, Or.inl hc, hbase⟩
  · exact ⟨b, Or.inr ⟨h, fun c hc hbase => hown ⟨c, hc, hbase⟩⟩, rfl⟩

/-- What others hold is apart from the own block. -/
lemma Apartados.of_other (h : Apartados own pend) {x y : κ} {b c : Block} (hx : own x = some b)
    (hy : Holds own pend y c) (hne : x = y → c.base ≠ b.base) : Apart b c := by
  rcases h x y b c (Or.inl hx) hy with ⟨hxy, hbc⟩ | hapart
  · exact absurd (congrArg Block.base hbc).symm (hne hxy)
  · exact hapart

variable [DecidableEq κ]

/-- What a holder that keeps a half has, or somebody else. -/
lemma Holds.of_update {x : κ} {b : Block} (hx : own x = some b)
    (hpend : ∀ y c, pend' y c → pend y c) {y : κ} {c : Block}
    (h : Holds (Function.update own x (some b.keep)) pend' y c) :
    (x = y ∧ c = b.keep) ∨ Holds own pend y c ∧ (x = y → c.base ≠ b.base) := by
  by_cases hy : y = x
  · subst hy
    rcases h with hown | ⟨hp, hne⟩
    · rw [Function.update_self, Option.some.injEq] at hown
      exact Or.inl ⟨rfl, hown.symm⟩
    · have hbase : c.base ≠ b.base := fun heq =>
        hne b.keep (by rw [Function.update_self]) heq.symm
      refine Or.inr ⟨Or.inr ⟨hpend y c hp, fun d hd => ?_⟩, fun _ => hbase⟩
      rw [hx, Option.some.injEq] at hd
      exact hd ▸ hbase.symm
  · refine Or.inr ⟨?_, fun h => absurd h.symm hy⟩
    unfold Holds at h
    rw [Function.update_of_ne hy] at h
    exact h.imp id fun h => ⟨hpend y c h.1, h.2⟩

/-- **A holder gives up half of its block.** -/
theorem Apartados.shrink (h : Apartados own pend) {x : κ} {b : Block} (hx : own x = some b)
    (hpend : ∀ y c, pend' y c → pend y c) :
    Apartados (Function.update own x (some b.keep)) pend' := by
  intro y z c d hc hd
  rcases Holds.of_update hx hpend hc with ⟨rfl, rfl⟩ | ⟨hc, hcx⟩
  · rcases Holds.of_update hx hpend hd with ⟨rfl, rfl⟩ | ⟨hd, hdx⟩
    · exact Or.inl ⟨rfl, rfl⟩
    · exact Or.inr (h.of_other hx hd hdx).keep
  · rcases Holds.of_update hx hpend hd with ⟨rfl, rfl⟩ | ⟨hd, -⟩
    · exact Or.inr (h.of_other hx hc hcx).keep.symm
    · exact h y z c d hc hd

/-- **A holder sets one half of its block aside for another.** -/
theorem Apartados.split (h : Apartados own pend) {x y : κ} {b : Block} (hx : own x = some b)
    (hpend : ∀ z c, pend' z c → pend z c ∨ z = y ∧ c = b.give) :
    Apartados (Function.update own x (some b.keep)) pend' := by
  have hold : Apartados (Function.update own x (some b.keep)) pend := h.shrink hx fun _ _ hc => hc
  -- the new half is apart from everything else
  have hnew : ∀ z c, Holds (Function.update own x (some b.keep)) pend z c → Apart b.give c := by
    intro z c hc
    rcases Holds.of_update hx (fun _ _ hc => hc) hc with ⟨-, rfl⟩ | ⟨hc, hcx⟩
    · exact (keep_apart_give b).symm
    · exact (h.of_other hx hc hcx).give
  have hcases : ∀ z c, Holds (Function.update own x (some b.keep)) pend' z c →
      Holds (Function.update own x (some b.keep)) pend z c ∨ z = y ∧ c = b.give := by
    rintro z c (hown | ⟨hp, hne⟩)
    · exact Or.inl (Or.inl hown)
    · exact (hpend z c hp).imp (fun hp => Or.inr ⟨hp, hne⟩) id
  intro z w c d hc hd
  rcases hcases z c hc with hc | ⟨rfl, rfl⟩
  · rcases hcases w d hd with hd | ⟨rfl, rfl⟩
    · exact hold z w c d hc hd
    · exact Or.inr (hnew z c hc).symm
  · rcases hcases w d hd with hd | ⟨rfl, rfl⟩
    · exact Or.inr (hnew w d hd)
    · exact Or.inl ⟨rfl, rfl⟩

/-- **A holder without a block takes one that was set aside for it.** -/
theorem Apartados.take (h : Apartados own pend) {x : κ} {b : Block} (hx : own x = none)
    (hb : pend x b) : Apartados (Function.update own x (some b)) pend := by
  have hback : ∀ z c, Holds (Function.update own x (some b)) pend z c → Holds own pend z c := by
    intro z c hc
    by_cases hz : z = x
    · subst hz
      have hnone : ∀ d, own z = some d → d.base ≠ c.base := by simp [hx]
      rcases hc with hown | ⟨hp, -⟩
      · rw [Function.update_self, Option.some.injEq] at hown
        exact Or.inr ⟨hown ▸ hb, hnone⟩
      · exact Or.inr ⟨hp, hnone⟩
    · unfold Holds at hc ⊢
      rwa [Function.update_of_ne hz] at hc
  exact fun z w c d hc hd => h z w c d (hback z c hc) (hback w d hd)

end Holders

/-! ## Offers

Blocks that are on their way to no holder in particular: whoever gets one takes it.
-/

section Offers

variable {κ : Type*} {own : κ → Option Block} {os os' : List Block}

/-- The blocks of different holders and the offers are apart. -/
structure Ofrecidos (own : κ → Option Block) (os : List Block) : Prop where
  propios : ∀ x y b c, own x = some b → own y = some c → x ≠ y → Apart b c
  ofertas : os.Pairwise Apart
  cruzados : ∀ x b c, own x = some b → c ∈ os → Apart b c

/-- Offers may be lost. -/
lemma Ofrecidos.sublist (h : Ofrecidos own os) (hs : os'.Sublist os) : Ofrecidos own os' where
  propios := h.propios
  ofertas := h.ofertas.sublist hs
  cruzados x b c hx hc := h.cruzados x b c hx (hs.subset hc)

/-- Their order does not matter. -/
lemma Ofrecidos.perm (h : Ofrecidos own os) (hp : os.Perm os') : Ofrecidos own os' where
  propios := h.propios
  ofertas := (hp.pairwise_iff fun hbc => hbc.symm).mp h.ofertas
  cruzados x b c hx hc := h.cruzados x b c hx (hp.mem_iff.mpr hc)

variable [DecidableEq κ]

lemma update_cases {x y : κ} {b c : Block} (h : Function.update own x (some b) y = some c) :
    y = x ∧ c = b ∨ y ≠ x ∧ own y = some c := by
  by_cases hy : y = x
  · subst hy
    rw [Function.update_self, Option.some.injEq] at h
    exact Or.inl ⟨rfl, h.symm⟩
  · rw [Function.update_of_ne hy] at h
    exact Or.inr ⟨hy, h⟩

/-- **A holder gives away halves of its block**, one after the other. -/
theorem Ofrecidos.give (h : Ofrecidos own os) {x : κ} {b : Block} (hx : own x = some b) (r : ℕ) :
    Ofrecidos (Function.update own x (some (b.keepN r))) (os ++ b.gives r) := by
  constructor
  · intro y z c d hc hd hyz
    rcases update_cases hc with ⟨rfl, rfl⟩ | ⟨hy, hc'⟩
    · rcases update_cases hd with ⟨rfl, -⟩ | ⟨-, hd'⟩
      · exact absurd rfl hyz
      · exact (h.propios _ _ _ _ hx hd' hyz).keepN r
    · rcases update_cases hd with ⟨rfl, rfl⟩ | ⟨-, hd'⟩
      · exact ((h.propios _ _ _ _ hx hc' hy.symm).keepN r).symm
      · exact h.propios _ _ _ _ hc' hd' hyz
  · rw [List.pairwise_append]
    refine ⟨h.ofertas, pairwise_gives b r, ?_⟩
    intro c hc g hg
    exact ((h.cruzados x b c hx hc).of_mem_gives hg).symm
  · intro y c d hc hd
    rcases update_cases hc with ⟨rfl, rfl⟩ | ⟨hy, hc⟩
    · rcases List.mem_append.mp hd with hd | hd
      · exact (h.cruzados _ _ _ hx hd).keepN r
      · exact keepN_apart_of_mem_gives hd
    · rcases List.mem_append.mp hd with hd | hd
      · exact h.cruzados y c d hc hd
      · exact ((h.propios _ _ _ _ hx hc hy.symm).of_mem_gives hd).symm

/-- **A holder takes an offer** instead of what it had. -/
theorem Ofrecidos.take {b : Block} (h : Ofrecidos own (b :: os)) (x : κ) :
    Ofrecidos (Function.update own x (some b)) os := by
  obtain ⟨hb, hos⟩ := List.pairwise_cons.mp h.ofertas
  constructor
  · intro y z c d hc hd hyz
    rcases update_cases hc with ⟨rfl, rfl⟩ | ⟨-, hc'⟩
    · rcases update_cases hd with ⟨rfl, -⟩ | ⟨-, hd'⟩
      · exact absurd rfl hyz
      · exact (h.cruzados z d _ hd' List.mem_cons_self).symm
    · rcases update_cases hd with ⟨rfl, rfl⟩ | ⟨-, hd'⟩
      · exact h.cruzados y c _ hc' List.mem_cons_self
      · exact h.propios _ _ _ _ hc' hd' hyz
  · exact hos
  · intro y c d hc hd
    rcases update_cases hc with ⟨rfl, rfl⟩ | ⟨-, hc⟩
    · exact hb d hd
    · exact h.cruzados y c d hc (List.mem_cons_of_mem _ hd)

end Offers

end PrefixBlock
