import TestFleet.Test

/-!
# Comparing configurations

Configurations are compared with `==`, which is coarser than equality: the paths in them are
compared by their components. It still is an equivalence (`TestConfiguration.equivalence`), so it
makes sense to speak of the tests of one configuration.
-/

namespace TestFleet

/-! ## Containers -/

section Containers

variable {α β : Type} [BEq α] [EquivBEq α] [BEq β] [EquivBEq β]

instance equivBEq_prod : EquivBEq (α × β) where
  rfl := Bool.and_eq_true_iff.2 ⟨BEq.rfl, BEq.rfl⟩
  symm h :=
    let ⟨h₁, h₂⟩ := Bool.and_eq_true_iff.1 h
    Bool.and_eq_true_iff.2 ⟨BEq.symm h₁, BEq.symm h₂⟩
  trans h k :=
    let ⟨h₁, h₂⟩ := Bool.and_eq_true_iff.1 h
    let ⟨k₁, k₂⟩ := Bool.and_eq_true_iff.1 k
    Bool.and_eq_true_iff.2 ⟨BEq.trans h₁ k₁, BEq.trans h₂ k₂⟩

theorem beq_symm_option : ∀ {a b : Option α}, (a == b) = true → (b == a) = true
  | none, none, _ => rfl
  | some _, some _, h => BEq.symm (α := α) h

theorem beq_trans_option : ∀ {a b c : Option α},
    (a == b) = true → (b == c) = true → (a == c) = true
  | none, none, none, _, _ => rfl
  | some _, some _, some _, h, k => BEq.trans (α := α) h k

instance equivBEq_option : EquivBEq (Option α) where
  symm := beq_symm_option
  trans := beq_trans_option

theorem beq_symm_list : ∀ {as bs : List α}, (as == bs) = true → (bs == as) = true
  | [], [], _ => rfl
  | _ :: _, _ :: _, h => by
    rw [List.cons_beq_cons, Bool.and_eq_true] at h ⊢
    exact ⟨BEq.symm h.1, beq_symm_list h.2⟩

theorem beq_trans_list : ∀ {as bs cs : List α},
    (as == bs) = true → (bs == cs) = true → (as == cs) = true
  | [], [], [], _, _ => rfl
  | _ :: _, _ :: _, _ :: _, h, k => by
    rw [List.cons_beq_cons, Bool.and_eq_true] at h k ⊢
    exact ⟨BEq.trans h.1 k.1, beq_trans_list h.2 k.2⟩

instance equivBEq_list : EquivBEq (List α) where
  symm := beq_symm_list
  trans := beq_trans_list

omit [EquivBEq α] in
/-- A comparison that amounts to comparing parts is an equivalence if that of the parts is. -/
theorem equivalence_of_parts (parts : α → β) (h : ∀ a b, (a == b) = (parts a == parts b)) :
    EquivBEq α where
  rfl {a} := (h a a).trans BEq.rfl
  symm {a b} e := by
    rw [h] at e ⊢
    exact BEq.symm e
  trans {a b c} e f := by
    rw [h] at e f ⊢
    exact BEq.trans e f

end Containers

/-! ## Configurations and what they consist of -/

instance : EquivBEq FilePath :=
  equivalence_of_parts (fun p => (p.isAbsolute, p.names)) fun _ _ => rfl

theorem ResourceLocation.beq_symm : ∀ {a b : ResourceLocation}, (a == b) = true → (b == a) = true
  | localPath _, localPath _, h => BEq.symm (α := FilePath) h
  | remoteUrl _, remoteUrl _, h => BEq.symm (α := String) h

theorem ResourceLocation.beq_trans : ∀ {a b c : ResourceLocation},
    (a == b) = true → (b == c) = true → (a == c) = true
  | localPath _, localPath _, localPath _, h, k => BEq.trans (α := FilePath) h k
  | remoteUrl _, remoteUrl _, remoteUrl _, h, k => BEq.trans (α := String) h k

instance : EquivBEq ResourceLocation where
  rfl {a} := by
    cases a with
    | localPath p => exact BEq.rfl (a := p)
    | remoteUrl url => exact BEq.rfl (a := url)
  symm := ResourceLocation.beq_symm
  trans := ResourceLocation.beq_trans

instance : EquivBEq Resource :=
  equivalence_of_parts (fun r => (r.kind, r.location)) fun _ _ => rfl

instance : EquivBEq BuildArtifacts :=
  equivalence_of_parts (fun a => (a.appBundle, a.runner, a.testBundle, a.additionalBundles))
    fun _ _ => rfl

instance : EquivBEq SimulatorSettings :=
  equivalence_of_parts (fun s => (s.localization, s.watchdog, s.globalPreference)) fun _ _ => rfl

instance : EquivBEq TestBehavior :=
  equivalence_of_parts (fun b => (b.environment, b.retries)) fun _ _ => rfl

instance TestConfiguration.equivalence : EquivBEq TestConfiguration :=
  equivalence_of_parts
    (fun c => (c.artifacts, c.simulator, c.destination, c.behavior, c.type, c.toolchain))
    fun _ _ => rfl

end TestFleet
