/-! # Greeting

The opening of a conversation with a user.
-/

namespace Gazetteer

def greeting (name : String) : String := "Hello " ++ name ++ ", how can I assist you today?"

end Gazetteer
