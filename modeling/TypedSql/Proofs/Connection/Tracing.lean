import TypedSql.Proofs.Connection.Along

namespace TypedSql

open Connection

/-- Something done on a connection that leaves its tracing as it is. -/
def Steady {α : Type} (x : StateM Connection α) : Prop := ∀ c, (x c).2.tracing = c.tracing

/-- A step without a body that does not say whether to trace leaves it as it is. -/
theorem Step.steady_act {s : Step} (h : ∀ b, s ≠ .tracing b) : Steady s.act := by
  have hactive : Active (fun _ => True) fun c d => d.tracing = c.tracing :=
    { refl := fun _ => rfl
      trans := fun hcd hdf => hdf.trans hcd
      engine := fun _ => rfl
      traced := fun _ _ => rfl
      noted := fun _ => rfl
      execute := fun _ _ _ _ => rfl }
  exact hactive.act (fun _ _ => trivial) s.reads_any fun b hb => absurd hb (h b)

end TypedSql
