import Sc2pp.Impl.Converters

/-!
This module contains when the conversions succeed: they fail at nothing but the assertion on the
ability id of an order.
-/

namespace Sc2

theorem convertObservation_eq_ok {response : Proto.ResponseObservation} {units : List Unit}
    {commands : List UnitCommand} {errors : List ActionError}
    : convertObservation response = .ok (units, commands, errors) ↔
        response.units.mapM Proto.Unit.fromProto = .ok units ∧
        commands = echoedUnitCommands response.actions ∧
        errors = response.actionErrors.map Proto.ActionError.fromProto := by
  simp only [convertObservation, Outcome.bind_eq_ok, Outcome.pure_eq_ok, Except.ok.injEq,
    Prod.mk.injEq]
  constructor
  . intro h
    rcases h with ⟨us, hus, rfl, rfl, rfl⟩
    exact ⟨hus, rfl, rfl⟩
  . intro h
    rcases h with ⟨hus, rfl, rfl⟩
    exact ⟨units, hus, rfl, rfl, rfl⟩

theorem Proto.Unit.fromProto_exists {x : Proto.Unit}
    (h : ∀ o ∈ x.orders, o.abilityId.getD 0 ≠ 0) : ∃ u, x.fromProto = .ok u := by
  have horders : ∃ orders, x.orders.mapM Proto.UnitOrder.fromProto = .ok orders := by
    apply Outcome.mapM_exists
    intro o ho
    simp [Proto.UnitOrder.fromProto, Outcome.assertThat, h o ho]
  rcases horders with ⟨orders, horders⟩
  simp [Proto.Unit.fromProto, horders]

theorem convertObservation_exists {response : Proto.ResponseObservation}
    (h : response.OrdersNamed) : ∃ units, convertObservation response =
      .ok (units, echoedUnitCommands response.actions,
        response.actionErrors.map Proto.ActionError.fromProto) := by
  obtain ⟨units, hunits⟩ : ∃ us, response.units.mapM Proto.Unit.fromProto = .ok us := by
    apply Outcome.mapM_exists
    intro x hx
    apply Proto.Unit.fromProto_exists (h x hx)
  exact ⟨units, convertObservation_eq_ok.mpr ⟨hunits, rfl, rfl⟩⟩

theorem Proto.UnitOrder.fromProto_eq_ok {o : Proto.UnitOrder} {order : Sc2.UnitOrder}
    (h : o.fromProto = .ok order) : o.abilityId.getD 0 ≠ 0 := by
  simp only [Proto.UnitOrder.fromProto, Outcome.bind_eq_ok, Outcome.assertThat_eq_ok] at h
  rcases h with ⟨-, hassert, -⟩
  simpa using hassert

theorem convertObservation_exists_iff {response : Proto.ResponseObservation}
    : (∃ converted, convertObservation response = .ok converted) ↔ response.OrdersNamed := by
  constructor
  . intro h
    rcases h with ⟨⟨units, commands, errors⟩, h⟩
    have hunits := (convertObservation_eq_ok.mp h).1
    intro x hx o ho
    rcases Outcome.mapM_mem hunits hx with ⟨u, hu⟩
    simp only [Proto.Unit.fromProto, Outcome.bind_eq_ok] at hu
    rcases hu with ⟨orders, horders, -⟩
    rcases Outcome.mapM_mem horders ho with ⟨order, horder⟩
    apply Proto.UnitOrder.fromProto_eq_ok horder
  . intro h
    rcases convertObservation_exists h with ⟨units, hunits⟩
    exact ⟨_, hunits⟩

end Sc2
