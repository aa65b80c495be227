import JobQueue.Text.Escaped
import JobQueue.Text.Numeral

/-! Replies of a store server. -/

namespace JobQueue

inductive Reply where
  | nil
  | okay
  | status (text : String)
  | integer (value : Int)
  | data (text : String)
  | bulk (items : List Reply)
  deriving Repr

namespace Reply

mutual

/-- A reply as it is shown in an error. -/
def describe : Reply → String
  | nil => "nil"
  | okay => "ok"
  | status s => "status(" ++ Text.escaped s ++ ")"
  | integer i => "int(" ++ String.ofList (Text.intDigits i) ++ ")"
  | data s => "string-data('" ++ Text.escaped s ++ "')"
  | bulk items => "bulk(" ++ String.intercalate ", " (describeAll items) ++ ")"

def describeAll : List Reply → List String
  | [] => []
  | r :: rs => describe r :: describeAll rs

end

end Reply

end JobQueue
