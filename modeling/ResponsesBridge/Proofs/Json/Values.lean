import ResponsesBridge.Json.Node

/-!
# Values of complete nodes

The node of a complete value has no faults, so every reader of values gets to its end. What it
gets is the value itself if the names in each object are different (`Value.Distinct`): reading
settles repeated names, and nothing else.
-/

set_option autoImplicit false

namespace ResponsesBridge.Json

/-! ## Different names -/

mutual

/-- The names in each object of a value are different. -/
def Value.Distinct : Value → Prop
  | .array items => DistinctItems items
  | .object members => (members.map Prod.fst).Nodup ∧ DistinctMembers members
  | _ => True
termination_by structural value => value

/-- The names in each object of all items are different. -/
def DistinctItems : List Value → Prop
  | [] => True
  | item :: items => item.Distinct ∧ DistinctItems items
termination_by structural items => items

/-- The names in each object below members are different. -/
def DistinctMembers : List (String × Value) → Prop
  | [] => True
  | (_, value) :: members => value.Distinct ∧ DistinctMembers members
termination_by structural members => members

end

/-- Different names are settled already, behind entries of other names. -/
theorem foldl_put_of_nodup {α : Type} {settled entries : List (String × α)}
    (different : ((settled ++ entries).map Prod.fst).Nodup) :
    entries.foldl (fun settled entry => put entry.1 entry.2 settled) settled =
      settled ++ entries := by
  induction entries generalizing settled with
  | nil => simp
  | cons entry entries ih =>
      have fresh : entry.1 ∉ settled.map Prod.fst := by
        intro met
        rw [List.map_append, List.nodup_append] at different
        exact different.2.2 entry.1 met entry.1 (List.mem_cons_self ..) rfl
      have shifted : settled ++ entry :: entries = (settled ++ [entry]) ++ entries := by simp
      rw [List.foldl_cons, put_of_not_mem fresh, shifted, ih (shifted ▸ different)]

theorem settle_of_nodup {α : Type} {entries : List (String × α)}
    (different : (entries.map Prod.fst).Nodup) : settle entries = entries :=
  foldl_put_of_nodup different

/-! ## Complete nodes -/

mutual

/-- A complete node has a value, and with different names it is the value that the node was
made of. -/
theorem exists_value_node : ∀ value : Value,
    ∃ result, value.node.value = .ok result ∧ (value.Distinct → result = value)
  | .null => ⟨.null, rfl, fun _ => rfl⟩
  | .boolean value => ⟨.boolean value, rfl, fun _ => rfl⟩
  | .number value => ⟨.number value, rfl, fun _ => rfl⟩
  | .text content => ⟨.text content, rfl, fun _ => rfl⟩
  | .array items => by
      obtain ⟨results, read, same⟩ := exists_values_itemsOf items
      refine ⟨.array results, ?_, fun distinct => by rw [same distinct]⟩
      simp only [Value.node, Node.value, read, bind, Except.bind, pure, Except.pure]
  | .object members => by
      obtain ⟨results, read, same⟩ := exists_fields_membersOf members
      refine ⟨.object (settle results), ?_, fun distinct => ?_⟩
      · simp only [Value.node, Node.value, read, bind, Except.bind, pure, Except.pure]
      · rw [same distinct.2, settle_of_nodup distinct.1]

theorem exists_values_itemsOf : ∀ items : List Value,
    ∃ results, (itemsOf items).values = .ok results ∧ (DistinctItems items → results = items)
  | [] => ⟨[], rfl, fun _ => rfl⟩
  | item :: items => by
      obtain ⟨result, read, same⟩ := exists_value_node item
      obtain ⟨results, readAll, sameAll⟩ := exists_values_itemsOf items
      refine ⟨result :: results, ?_, fun distinct => by rw [same distinct.1, sameAll distinct.2]⟩
      simp only [itemsOf, Items.values, read, readAll, bind, Except.bind, pure, Except.pure]

theorem exists_fields_membersOf : ∀ members : List (String × Value),
    ∃ results, (membersOf members).fields = .ok results ∧
      (DistinctMembers members → results = members)
  | [] => ⟨[], rfl, fun _ => rfl⟩
  | (name, value) :: members => by
      obtain ⟨result, read, same⟩ := exists_value_node value
      obtain ⟨results, readAll, sameAll⟩ := exists_fields_membersOf members
      refine ⟨(name, result) :: results, ?_,
        fun distinct => by rw [same distinct.1, sameAll distinct.2]⟩
      simp only [membersOf, Members.fields, read, readAll, bind, Except.bind, pure, Except.pure]

end

/-! ## Heights -/

theorem height_le_itemsOf {item : Value} {items : List Value} (member : item ∈ items) :
    item.node.height ≤ (itemsOf items).height := by
  induction items with
  | nil => cases member
  | cons head items ih =>
      simp only [itemsOf, Items.height]
      rcases List.mem_cons.mp member with rfl | later
      · exact Nat.le_max_left _ _
      · exact Nat.le_trans (ih later) (Nat.le_max_right _ _)

theorem height_le_membersOf {name : String} {value : Value} {members : Fields}
    (member : (name, value) ∈ members) : value.node.height ≤ (membersOf members).height := by
  induction members with
  | nil => cases member
  | cons head members ih =>
      obtain ⟨other, first⟩ := head
      simp only [membersOf, Members.height]
      rcases List.mem_cons.mp member with same | later
      · obtain ⟨rfl, rfl⟩ := Prod.mk.inj same
        exact Nat.le_max_left _ _
      · exact Nat.le_trans (ih later) (Nat.le_max_right _ _)

/-- The members of an object with different names are read as they are. -/
theorem settled_fields_membersOf {members : Fields} (distinct : (Value.object members).Distinct) :
    (membersOf members).fields = .ok members ∧ settle members = members := by
  obtain ⟨results, read, same⟩ := exists_fields_membersOf members
  exact ⟨by rw [read, same distinct.2], settle_of_nodup distinct.1⟩

end ResponsesBridge.Json
