import ClassMetrics.Proofs.Cohesion.Components

namespace ClassMetrics

/-!
One more instruction in a method. It can relate the name of the method to many others at once, but those access
one field and so are related to each other, or there is a single one that is called. Either way the method is
joined with one part of the class, so the number of parts stays or drops by one.
-/

/-- The class in which the method at a position has one more instruction, at its end. -/
def ClassFile.extend (classFile : ClassFile) (position : Nat) (instruction : Instruction) : ClassFile :=
  { classFile with methods := classFile.methods.modify position fun method =>
      { method with instructions := method.instructions ++ [instruction] } }

namespace Cohesion

/-- The names to which an instruction relates the method that it stands in. -/
def Reaches (classFile : ClassFile) (instruction : Instruction) (name : String) : Prop :=
  (∃ field, accessedField? instruction = some field ∧ field ∈ fieldsOf classFile name) ∨
    ownCall? classFile.key instruction = some name

/-- The names that the method graph does not keep apart. -/
def Joined (classFile : ClassFile) : Setoid {name // Declares classFile name} :=
  Relation.EqvGen.setoid fun first second => Related classFile first.1 second.1

/-- All that cohesion sees of one more instruction, in a method of the name `grown`. -/
structure Grows (classFile extended : ClassFile) (grown : String) (instruction : Instruction) : Prop where
  key : extended.key = classFile.key
  names : methodNames extended = methodNames classFile
  body : ∀ name held, held ∈ bodyOf extended name ↔
    held ∈ bodyOf classFile name ∨ grown = name ∧ held = instruction

variable {classFile extended : ClassFile} {grown first second : String} {instruction : Instruction}

theorem grows_extend {position : Nat} {method : Method} (found : classFile.methods[position]? = some method) :
    Grows classFile (classFile.extend position instruction) method.name instruction := by
  obtain ⟨bound, isMethod⟩ := List.getElem?_eq_some_iff.mp found
  obtain ⟨before, after, declared, extended⟩ : ∃ before after, classFile.methods = before ++ method :: after ∧
      (classFile.extend position instruction).methods =
        before ++ { method with instructions := method.instructions ++ [instruction] } :: after := by
    refine ⟨classFile.methods.take position, classFile.methods.drop (position + 1), ?_, ?_⟩
    · rw [← isMethod, List.getElem_cons_drop, List.take_append_drop]
    · rw [← isMethod]
      exact List.modify_eq_take_cons_drop bound
  refine ⟨rfl, ?_, fun name held => ?_⟩
  · rw [methodNames, methodNames, extended, declared]
    simp
  · rw [mem_bodyOf_iff, mem_bodyOf_iff, extended, declared]
    simp only [List.mem_append, List.mem_cons, List.not_mem_nil, or_false, or_and_right, exists_or,
      exists_eq_left, and_or_left]
    simp only [or_assoc, or_comm, or_left_comm]

theorem extend_of_none {position : Nat} (missing : classFile.methods[position]? = none) :
    classFile.extend position instruction = classFile := by
  unfold ClassFile.extend
  rw [List.modify_eq_self (List.getElem?_eq_none_iff.mp missing)]

theorem related_iff :
    Related classFile first second ↔
      (∃ field, field ∈ fieldsOf classFile first ∧ field ∈ fieldsOf classFile second) ∨
        second ∈ callsOf classFile first ∨ first ∈ callsOf classFile second := by
  rw [← linked_iff, linked_iff_uses, or_assoc]

theorem Reaches.related (one : Reaches classFile instruction first) (other : Reaches classFile instruction second) :
    first = second ∨ Related classFile first second := by
  rcases one with ⟨field, accesses, ofFirst⟩ | calls
  · rcases other with ⟨again, accessesAgain, ofSecond⟩ | calls
    · rw [accesses] at accessesAgain
      cases accessesAgain
      exact .inr (related_iff.mpr (.inl ⟨field, ofFirst, ofSecond⟩))
    · obtain ⟨_, _, rfl, _⟩ := ownCall?_eq_some_iff.mp calls
      cases accesses
  · rcases other with ⟨field, accesses, _⟩ | callsAgain
    · obtain ⟨_, _, rfl, _⟩ := ownCall?_eq_some_iff.mp calls
      cases accesses
    · rw [calls] at callsAgain
      exact .inl (Option.some.inj callsAgain)

namespace Grows

theorem mem_fieldsOf (grows : Grows classFile extended grown instruction) {name field : String} :
    field ∈ fieldsOf extended name ↔
      field ∈ fieldsOf classFile name ∨ grown = name ∧ accessedField? instruction = some field := by
  simp only [fieldsOf, List.mem_filterMap, grows.body, or_and_right, exists_or]
  simp

theorem mem_callsOf (grows : Grows classFile extended grown instruction) {name called : String} :
    called ∈ callsOf extended name ↔
      called ∈ callsOf classFile name ∨ grown = name ∧ ownCall? classFile.key instruction = some called := by
  simp only [callsOf, grows.key, List.mem_filterMap, grows.body, or_and_right, exists_or]
  simp

theorem declares_eq (grows : Grows classFile extended grown instruction) :
    Declares extended = Declares classFile := by
  funext name
  rw [eq_iff_iff, ← mem_methodNames_iff, ← mem_methodNames_iff, grows.names]

theorem related_of_related (grows : Grows classFile extended grown instruction)
    (related : Related classFile first second) : Related extended first second := by
  rw [related_iff] at related ⊢
  simp only [grows.mem_fieldsOf, grows.mem_callsOf]
  rcases related with ⟨field, ofFirst, ofSecond⟩ | calls | called
  · exact .inl ⟨field, .inl ofFirst, .inl ofSecond⟩
  · exact .inr (.inl (.inl calls))
  · exact .inr (.inr (.inl called))

theorem related_of_reaches (grows : Grows classFile extended grown instruction)
    (reaches : Reaches classFile instruction second) : Related extended grown second := by
  rw [related_iff]
  rcases reaches with ⟨field, accesses, ofSecond⟩ | calls
  · exact .inl ⟨field, grows.mem_fieldsOf.mpr (.inr ⟨rfl, accesses⟩), grows.mem_fieldsOf.mpr (.inl ofSecond)⟩
  · exact .inr (.inl (grows.mem_callsOf.mpr (.inr ⟨rfl, calls⟩)))

/-- Nothing is related that was not, apart from the name of the method and what the instruction reaches. -/
theorem related_cases (grows : Grows classFile extended grown instruction)
    (related : Related extended first second) :
    Related classFile first second ∨ first = second ∨
      first = grown ∧ Reaches classFile instruction second ∨
      second = grown ∧ Reaches classFile instruction first := by
  rw [related_iff] at related ⊢
  simp only [grows.mem_fieldsOf, grows.mem_callsOf] at related
  rcases related with ⟨field, ofFirst, ofSecond⟩ | calls | called
  · rcases ofFirst with before | ⟨rfl, accesses⟩
    · rcases ofSecond with also | ⟨rfl, accesses⟩
      · exact .inl (.inl ⟨field, before, also⟩)
      · exact .inr (.inr (.inr ⟨rfl, .inl ⟨field, accesses, before⟩⟩))
    · rcases ofSecond with before | ⟨rfl, _⟩
      · exact .inr (.inr (.inl ⟨rfl, .inl ⟨field, accesses, before⟩⟩))
      · exact .inr (.inl rfl)
  · rcases calls with before | ⟨rfl, calls⟩
    · exact .inl (.inr (.inl before))
    · exact .inr (.inr (.inl ⟨rfl, .inr calls⟩))
  · rcases called with before | ⟨rfl, calls⟩
    · exact .inl (.inr (.inr before))
    · exact .inr (.inr (.inr ⟨rfl, .inr calls⟩))

/-- What the instruction reaches is one part, so one of its names stands for all of them. -/
theorem joined_eq_of_reaches (grows : Grows classFile extended grown instruction)
    {method other : {name // Declares classFile name}} (isGrown : method.1 = grown)
    (reaches : Reaches classFile instruction other.1) :
    Relation.EqvGen.setoid (fun first second : {name // Declares classFile name} =>
        Related extended first.1 second.1) =
      Relation.EqvGen.setoid fun first second =>
        Related classFile first.1 second.1 ∨ first = method ∧ second = other := by
  subst isGrown
  have reached (name : {name // Declares classFile name}) (also : Reaches classFile instruction name.1) :
      Relation.EqvGen (fun first second : {name // Declares classFile name} =>
        Related classFile first.1 second.1 ∨ first = method ∧ second = other) method name := by
    refine .trans _ other _ (.rel _ _ (.inr ⟨rfl, rfl⟩)) ?_
    rcases reaches.related also with same | related
    · rw [Subtype.ext same]
      exact .refl _
    · exact .rel _ _ (.inl related)
  apply le_antisymm
  · apply Setoid.eqvGen_le
    intro first second related
    rcases grows.related_cases related with before | same | ⟨isFirst, also⟩ | ⟨isSecond, also⟩
    · exact .rel _ _ (.inl before)
    · rw [Subtype.ext same]
    · rw [Subtype.ext isFirst]
      exact reached second also
    · rw [Subtype.ext isSecond]
      exact (reached first also).symm
  · apply Setoid.eqvGen_mono
    intro first second either
    rcases either with before | ⟨rfl, rfl⟩
    · exact grows.related_of_related before
    · exact grows.related_of_reaches reaches

theorem joined_eq_of_unreached (grows : Grows classFile extended grown instruction)
    (unreached : ∀ name : {name // Declares classFile name}, ¬ Reaches classFile instruction name.1) :
    Relation.EqvGen.setoid (fun first second : {name // Declares classFile name} =>
      Related extended first.1 second.1) = Joined classFile := by
  apply le_antisymm
  · apply Setoid.eqvGen_le
    intro first second related
    rcases grows.related_cases related with before | same | ⟨_, reaches⟩ | ⟨_, reaches⟩
    · exact .rel _ _ before
    · rw [Subtype.ext same]
    · exact absurd reaches (unreached second)
    · exact absurd reaches (unreached first)
  · exact Setoid.eqvGen_mono fun _ _ => grows.related_of_related

theorem lcom_eq (grows : Grows classFile extended grown instruction) :
    (ofClass extended).lcom = Nat.card (Quotient (Relation.EqvGen.setoid
      fun first second : {name // Declares classFile name} => Related extended first.1 second.1)) := by
  rw [lcom_eq_card, grows.declares_eq]

section Parts

variable {method other : {name // Declares classFile name}}

theorem lcom_of_joined (grows : Grows classFile extended grown instruction) (isGrown : method.1 = grown)
    (reaches : Reaches classFile instruction other.1) (joined : Joined classFile method other) :
    (ofClass extended).lcom = (ofClass classFile).lcom := by
  rw [grows.lcom_eq, grows.joined_eq_of_reaches isGrown reaches, Partition.eqvGen_insert_of_joined joined,
    lcom_eq_card]

theorem lcom_of_apart (grows : Grows classFile extended grown instruction) (isGrown : method.1 = grown)
    (reaches : Reaches classFile instruction other.1) (apart : ¬ Joined classFile method other) :
    (ofClass extended).lcom + 1 = (ofClass classFile).lcom := by
  rw [grows.lcom_eq, grows.joined_eq_of_reaches isGrown reaches, lcom_eq_card]
  exact Partition.card_insert_of_apart (fun _ => mem_methodNames_iff) (fun _ => related_of_link)
    link_of_related apart

theorem lcom_of_unreached (grows : Grows classFile extended grown instruction)
    (unreached : ∀ name : {name // Declares classFile name}, ¬ Reaches classFile instruction name.1) :
    (ofClass extended).lcom = (ofClass classFile).lcom := by
  rw [grows.lcom_eq, grows.joined_eq_of_unreached unreached, lcom_eq_card]
  rfl

theorem lcom_of_all_joined (grows : Grows classFile extended grown instruction) (isGrown : method.1 = grown)
    (joined : ∀ other : {name // Declares classFile name}, Reaches classFile instruction other.1 →
      Joined classFile method other) :
    (ofClass extended).lcom = (ofClass classFile).lcom := by
  by_cases reached : ∃ other : {name // Declares classFile name}, Reaches classFile instruction other.1
  · obtain ⟨other, reaches⟩ := reached
    exact grows.lcom_of_joined isGrown reaches (joined other reaches)
  · exact grows.lcom_of_unreached (not_exists.mp reached)

end Parts

end Grows

/-- One more instruction leaves the method names as they are. The number of parts drops by one if the instruction
reaches a name that was not joined with the method, and stays the same otherwise. -/
theorem lcom_extend_drops_at_most_one (classFile : ClassFile) (position : Nat) (instruction : Instruction) :
    let extended := classFile.extend position instruction
    (ofClass extended).methods = (ofClass classFile).methods ∧
      ((ofClass extended).lcom = (ofClass classFile).lcom ∨
        (ofClass extended).lcom + 1 = (ofClass classFile).lcom) ∧
      ((ofClass extended).lcom + 1 = (ofClass classFile).lcom ↔
        ∃ method other : {name // Declares classFile name},
          classFile.methods[position]?.map (·.name) = some method.1 ∧
            Reaches classFile instruction other.1 ∧ ¬ Joined classFile method other) := by
  intro extended
  cases found : classFile.methods[position]? with
  | none =>
      have unchanged : extended = classFile := extend_of_none found
      simp [unchanged]
  | some declared =>
      have grows : Grows classFile extended declared.name instruction := grows_extend found
      let method : {name // Declares classFile name} :=
        ⟨declared.name, declared, List.mem_of_getElem? found, rfl⟩
      have names : (ofClass extended).methods = (ofClass classFile).methods := by
        have same := grows.names
        rwa [← UsageTable.methods_ofClass, ← UsageTable.methods_ofClass] at same
      refine ⟨names, ?_⟩
      by_cases apart : ∃ other : {name // Declares classFile name},
          Reaches classFile instruction other.1 ∧ ¬ Joined classFile method other
      · obtain ⟨other, reaches, notJoined⟩ := apart
        have drops := grows.lcom_of_apart rfl reaches notJoined
        exact ⟨.inr drops, fun _ => ⟨method, other, rfl, reaches, notJoined⟩, fun _ => drops⟩
      · have stays : (ofClass extended).lcom = (ofClass classFile).lcom := by
          apply grows.lcom_of_all_joined (rfl : method.1 = declared.name)
          intro other reaches
          by_contra notJoined
          exact apart ⟨other, reaches, notJoined⟩
        refine ⟨.inl stays, fun drops => ?_, fun exists_apart => ?_⟩
        · omega
        · obtain ⟨named, other, isDeclared, reaches, notJoined⟩ := exists_apart
          have same : method = named := Subtype.ext (Option.some.inj isDeclared)
          exact absurd ⟨other, reaches, same ▸ notJoined⟩ apart

end Cohesion

end ClassMetrics
