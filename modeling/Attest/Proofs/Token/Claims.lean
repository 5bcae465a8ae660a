import Attest.Proofs.Double
import Attest.Proofs.Json.Shape
import Attest.Token.Claims

/-!
# What claims hold

Claims made from members hold the last member of each name, unless it is `null`, in the
order of the names.  An integer in a claim is read as the nearest one of 64 bits.
-/

namespace Attest.Token.Claims

/-- The claims are the last members of each name that are not `null`, and no others. -/
structure Holds (claims : Claims) (members : List (String × Json)) : Prop where
  /-- The claims stand in the order of their names, each name once. -/
  rising : (Table.keys claims.entries).Pairwise (· < ·)
  /-- The claim of a name is the last member of that name, unless it is `null`. -/
  find?_eq : ∀ name,
    claims.find? name = (Table.find? name members.reverse).filter fun value => !value.isNull

/-- Claims hold the members that they are made from. -/
theorem holds_ofMembers {members : List (String × Json)}
    (distinct : (Table.keys members).Nodup) : (ofMembers members).Holds members where
  rising := Table.pairwise_sorted _
  find?_eq name := by
    have kept := Table.nodup_keys_filter (fun member => !member.2.isNull) distinct
    rw [find?, ofMembers, Table.find?_sorted, Table.find?_reverse_of_nodup name kept,
      Table.find?_filter_of_nodup (fun value => !value.isNull) name distinct,
      Table.find?_reverse_of_nodup name distinct]

/-- Where names are repeated, the last member of each name counts. -/
theorem holds_ofEntries (members : List (String × Json)) :
    (ofMembers (Table.ofEntries members)).Holds members where
  rising := Table.pairwise_sorted _
  find?_eq name := by
    have distinct := Table.nodup_keys_ofEntries members
    rw [(holds_ofMembers distinct).find?_eq, Table.find?_reverse_of_nodup name distinct,
      Table.find?_ofEntries]

/-- Taking an integer beyond 64 bits as a double does not keep it from becoming the end of the
range. -/
theorem numeric?_int (i : Int) : numeric? (.int i) = some (saturateInt64 i) := by
  rw [numeric?]
  split
  · next fits => exact congrArg some (saturateInt64_of_fits fits).symm
  · next beyond =>
      exact congrArg some (Double.saturateInt64_truncate_ofInt (Bool.eq_false_iff.mpr beyond))

end Attest.Token.Claims
