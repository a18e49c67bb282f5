import EventBus.Event

namespace EventBus

/-- The message that carries an event. Without a topic it goes where its type says. -/
def Message.ofEvent (event : Event) (topic : Option String) (qos : Qos) (retain : Bool) :
    Message where
  topic := topic.getD event.derivedTopic
  payload := SortedMap.ofList event.members
  qos := qos
  retain := retain
  correlationId := event.correlationId
  timestamp := some event.timestamp

end EventBus
