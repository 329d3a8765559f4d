/-
RegexTokens.Shape — which sequences of kinds the tokens of a pattern can have.

A sequence of items: simple tokens, classes, and groups, which hold items in
turn. Where nested groups are not scanned, no group holds a group.
-/
import RegexTokens.Scan.Basic

namespace RegexTokens

/-- The kinds that are items by themselves. -/
def Kind.isSimple : Kind → Bool
  | groupOpen | groupClose | rangeOpen | rangeClose | lookahead | negLookahead => false
  | _ => true

/-- What may stand between the opening of a group and its content. -/
def groupHeads : List (List Kind) := [[], [.lookahead], [.negLookahead]]

/-- The kinds are those of a sequence of items, which is the content of a
group if `inGroup` says so. -/
inductive IsShape (o : Options) : (inGroup : Bool) → List Kind → Prop
  | nil {inGroup : Bool} : IsShape o inGroup []
  | simple {inGroup : Bool} {kind : Kind} {after : List Kind} :
    kind.isSimple = true → IsShape o inGroup after → IsShape o inGroup (kind :: after)
  | charClass {inGroup : Bool} (members : Nat) {after : List Kind} :
    IsShape o inGroup after →
      IsShape o inGroup
        ([.rangeOpen] ++ List.replicate members .char ++ [.rangeClose] ++ after)
  | group {inGroup : Bool} {head content after : List Kind} :
    inGroup = false ∨ o.nestedGroups = true → head ∈ groupHeads →
      IsShape o true content → IsShape o inGroup after →
      IsShape o inGroup ([.groupOpen] ++ head ++ content ++ [.groupClose] ++ after)

end RegexTokens
