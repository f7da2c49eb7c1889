import Grammers.Tl
import Grammers.Message.Basic
import Grammers.Message.Topic
import Grammers.Message.Normalize
import Grammers.Message.Reactions
import Grammers.ForumTopicFilter.Handler
import Grammers.ForumTopicFilter.Dispatch
import Grammers.ForumTopicFilter.Tasks
import Grammers.ForumTopicFilter.Args
import Grammers.ForumTopicFilter.Main
