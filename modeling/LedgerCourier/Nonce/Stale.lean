/-!
Texts that say that a number was used up by somebody else.

A node has no better way to say so than a text. When one of these phrases occurs in it, what
is known about the account's numbers is out of date.
-/

namespace LedgerCourier.Stale

set_option autoImplicit false

def occursIn (part : List Char) : List Char → Bool
  | [] => part.isEmpty
  | character :: rest => part.isPrefixOf (character :: rest) || occursIn part rest

def markers : List String := ["Priority is too low", "Transaction is outdated", "Stale"]

def isStale (text : String) : Bool :=
  markers.any fun marker => occursIn marker.toList text.toList

end LedgerCourier.Stale
