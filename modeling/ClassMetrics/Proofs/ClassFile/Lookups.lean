import ClassMetrics.Proofs.ClassFile.Reads

namespace ClassMetrics.ConstantPool

def Holds (pool : ConstantPool) (index : Nat) (constant : Constant) : Prop :=
  pool.slots[index]? = some (some constant)

/-- The slot leads to the owner, the name and the descriptor of a member. -/
def Refers (pool : ConstantPool) (index : Nat) (ref : MemberRef) : Prop :=
  ∃ owner signature ownerName name descriptor,
    pool.Holds index (.memberRef owner signature) ∧
      pool.Holds signature (.nameAndType name descriptor) ∧
      pool.Holds owner (.classRef ownerName) ∧ pool.Holds ownerName (.text ref.owner) ∧
      pool.Holds name (.text ref.name) ∧ pool.Holds descriptor (.text ref.descriptor)

variable {pool : ConstantPool} {index : Nat}

theorem constant_eq_ok_iff {constant : Constant} :
    pool.constant index = .ok constant ↔ pool.Holds index constant := by
  unfold ConstantPool.constant Holds
  split
  · rename_i found held
    simp [held]
  · rename_i none
    simpa using none constant

theorem text_eq_ok_iff {value : String} : pool.text index = .ok value ↔ pool.Holds index (.text value) := by
  rw [text, bind_eq_ok_iff]
  simp only [constant_eq_ok_iff]
  constructor
  · rintro ⟨constant, held, read⟩
    cases constant <;> cases read
    exact held
  · intro held
    exact ⟨.text value, held, rfl⟩

theorem className_eq_ok_iff {value : String} :
    pool.className index = .ok value ↔
      ∃ name, pool.Holds index (.classRef name) ∧ pool.Holds name (.text value) := by
  rw [className, bind_eq_ok_iff]
  simp only [constant_eq_ok_iff]
  constructor
  · rintro ⟨constant, held, read⟩
    cases constant with
    | classRef name => exact ⟨name, held, text_eq_ok_iff.mp read⟩
    | text | memberRef | nameAndType | other => cases read
  · rintro ⟨name, held, named⟩
    exact ⟨.classRef name, held, text_eq_ok_iff.mpr named⟩

theorem nameAndType_eq_ok_iff {name descriptor : Nat} :
    pool.nameAndType index = .ok (name, descriptor) ↔ pool.Holds index (.nameAndType name descriptor) := by
  rw [nameAndType, bind_eq_ok_iff]
  simp only [constant_eq_ok_iff]
  constructor
  · rintro ⟨constant, held, read⟩
    cases constant <;> cases read
    exact held
  · intro held
    exact ⟨.nameAndType name descriptor, held, rfl⟩

theorem member_eq_ok_iff {ref : MemberRef} : pool.member index = .ok ref ↔ pool.Refers index ref := by
  rw [member, bind_eq_ok_iff]
  simp only [constant_eq_ok_iff]
  constructor
  · rintro ⟨constant, held, read⟩
    cases constant with
    | memberRef owner signature =>
        obtain ⟨⟨name, descriptor⟩, pair, read⟩ := bind_eq_ok_iff.mp read
        obtain ⟨ownerText, owned, read⟩ := bind_eq_ok_iff.mp read
        obtain ⟨nameText, named, read⟩ := bind_eq_ok_iff.mp read
        obtain ⟨descriptorText, typed, read⟩ := bind_eq_ok_iff.mp read
        cases read
        obtain ⟨ownerName, ownerClass, ownerHeld⟩ := className_eq_ok_iff.mp owned
        exact ⟨owner, signature, ownerName, name, descriptor, held, nameAndType_eq_ok_iff.mp pair, ownerClass,
          ownerHeld, text_eq_ok_iff.mp named, text_eq_ok_iff.mp typed⟩
    | text | classRef | nameAndType | other => cases read
  · rintro ⟨owner, signature, ownerName, name, descriptor, held, pair, ownerClass, ownerHeld, named, typed⟩
    refine ⟨.memberRef owner signature, held, bind_eq_ok_iff.mpr ⟨(name, descriptor), ?_, ?_⟩⟩
    · exact nameAndType_eq_ok_iff.mpr pair
    · refine bind_eq_ok_iff.mpr ⟨ref.owner, className_eq_ok_iff.mpr ⟨ownerName, ownerClass, ownerHeld⟩, ?_⟩
      refine bind_eq_ok_iff.mpr ⟨ref.name, text_eq_ok_iff.mpr named, ?_⟩
      exact bind_eq_ok_iff.mpr ⟨ref.descriptor, text_eq_ok_iff.mpr typed, rfl⟩

end ClassMetrics.ConstantPool
