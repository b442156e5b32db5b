/-! `icom_wifi.c` and `icom_mqtt.c`: the link to the access point, and the client over it. -/

namespace EspBridges.Icom

def exampleEspMaximumRetry : Nat := 10

inductive SystemEventId where
  | systemEventStaStart | systemEventStaGotIp | systemEventStaDisconnected | other
  deriving DecidableEq

/-- An event of the station.  Where it makes a client, `created` says whether there is memory for
it and `started` whether it starts. -/
structure SystemEvent where
  eventId : SystemEventId
  created : Bool
  started : Bool

/-- The statics of the two files.  `connects` are the events that `esp_wifi_connect` was called at,
`clients` the clients made, each with whether it was started. -/
structure Link where
  sRetryNum : Nat
  wifiConnectedBit : Bool
  connects : List SystemEventId
  clients : List Bool

def Link.boot : Link := ⟨0, false, [], []⟩

def mqttAppStart (e : SystemEvent) (l : Link) : Link :=
  if e.created then { l with clients := l.clients ++ [e.started] } else l

def wifiEventHandler (l : Link) (e : SystemEvent) : Link :=
  match e.eventId with
  | .systemEventStaStart => { l with connects := l.connects ++ [e.eventId] }
  | .systemEventStaGotIp => mqttAppStart e { l with sRetryNum := 0, wifiConnectedBit := true }
  | .systemEventStaDisconnected =>
    if l.sRetryNum < exampleEspMaximumRetry then
      { l with
        connects := l.connects ++ [e.eventId]
        wifiConnectedBit := false
        sRetryNum := l.sRetryNum + 1 }
    else l
  | .other => l

end EspBridges.Icom
