import CallDescriptor.Named
/-!
# Call types

How a call is dispatched: by a plain or a delegate call, and with its
arguments as they stand or replaced from the local stack. `CallType.ofDigit`
reads the one digit of a descriptor that says so.
-/

namespace CallDescriptor

/-- How the executor dispatches a call. -/
inductive CallType where
  | staticCall
  | dynamicCall
  | staticDelegateCall
  | dynamicDelegateCall
  deriving DecidableEq, Repr

namespace CallType

/-- The call type a digit stands for: `1`, `2` and `3` have their own, and
every other character means a static delegate call. -/
def ofDigit (digit : Char) : CallType :=
  if digit = '1' then dynamicDelegateCall
  else if digit = '2' then staticCall
  else if digit = '3' then dynamicCall
  else staticDelegateCall

/-- The words a report names the call type by. -/
def label : CallType → String
  | staticCall => "static call"
  | dynamicCall => "dynamic call"
  | staticDelegateCall => "static delegateCall"
  | dynamicDelegateCall => "dynamic delegateCall"

instance : Named CallType where
  values := [staticCall, dynamicCall, staticDelegateCall, dynamicDelegateCall]
  name
    | staticCall => "static_call"
    | dynamicCall => "dynamic_call"
    | staticDelegateCall => "static_delegate_call"
    | dynamicDelegateCall => "dynamic_delegate_call"

/-- Whether the callee runs in the caller's storage. -/
def isDelegate (c : CallType) : Bool := c = staticDelegateCall || c = dynamicDelegateCall

/-- Whether arguments are replaced from the local stack. -/
def isDynamic (c : CallType) : Bool := c = dynamicCall || c = dynamicDelegateCall

end CallType

end CallDescriptor
