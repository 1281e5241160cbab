import CInspect.Text.Packed
/-!
The network headers: sockets, addresses of the internet protocols, and the look-up of hosts and services.

Each entry is the full path of a header and its text, reduced to the
declarations and macros that programs can see, each on the line it
stands on in the header.
-/

namespace CInspect.Includes

/-- The socket, address and host look-up headers. -/
def networkHeaders : List (String × String) := Text.unpackEntries <|
  String.join [
    "/usr/include/arpa/inet.h`~1!!#ifndef _ARPA_INET_H`#define\t~,!8\t1``#~'!z <features.h>~+!9netinet/in.h>~,%,_socklen_t_~&%*d`type~/!? ~)!-;`# ~&!M~5!c#endif``__B",
    "EGIN_DECLS````extern in_addr_t inet~%!/ (const char *__cp) __THROW;~9!_lnaof (struct~(!A __in~-!d~(!e~/!L~%!jmake~&%P~*%+__net,~+%<__host)`    ~C%inet~M%i~2!ewo",
    "rk~?'7~(!d~&!C~&!_toa~D%F~*%G~'%Apton (int __af, ~.%Hrestrict __cp,`\t\t~%'+ void~/!Cbuf~6%9~,!x~(&%p~2%B~3!z~&%B~'%C~3%ebuf,~*+p __len~2)%`#if~&,NUSE_MISC~3'-a",
    "~%'-~0(H,~0*c*__in~C(beta~3+(~(%'~&&2ize~)&/~(!w`  __attribute_deprecated_msg__ (\"Use ~*'pinstead\")~.(E~-%Z~?(Ccp,~%'-__bits~)(D~C&'~6+%~C+)~))U~(%R~H%2unsign",
    "ed~+%;sap~70t~%%2~%&E~)![~-&N~&%p~1%;~3'lsap~'.6~)!X~(&N~1%*~,,3~+%>~+%3~*3REND~(3P~'!8\x00~-6Rifaddrs~46P~*5HIFADDRS~*6O~+!6~E6Msys/socket~%6M~15?~(--~&%]`@`  ",
    "~.!6 *ifa_next;``~(&t~%!6ame;` ~/)5fa_flags~%!Q~'!qsock~&.7ifa~%)O;~8!Anetmask~&%'ion`  @~%'8  ~5!Vu_broad~(!|~7!Hdst~(!F$~%%vifu;```# ~'(:ifa~*!p`# ~(9:~-!;\t~",
    "'!a.~-%G`# ~&)_~-!t~'%B~/!r~'!9~-!p~*!N~'*h~(-j~%!Uata;`$;~)*D~+.lget~((z(~0)2*__ifa~5:M~%%,free~9!d~%!c)~,4E~C,P~%=gf~>,ONET_IF~,,N~(!5~:,M~35m# ~-,dtyp~',| ~7",
    "-!~(.q`~)%IIF_NAMESIZE\t16~+-4~%,Yindex~%+Q~-1=~&,f_~%!B~&+D~(-;~)-:~%)(~37wenum~)!xIFF_UP = 0x1,~*AZ~&!:\t~&!*~)!MBROADCAST~%!T2~/!T~)!B\t~-!1~)!eDEBUG~%!a4~/!",
    "a~%!=\t~)!-~)!VLOOPBACK~%!Y8~/!Y~(!A\t~,!0~)!bPOINTO~%!)~&&Y0~/!f~,!E~/!3~)!lNOTRAILERS~&&p~0!k~*!D\t~.!2~)!iRUNNIN~'&u~0!f~'!A\t~+!/~+%KAR~&(n8~2%FAR~&(r~%!-~*",
    "&rROMISC~'&n~1&o~&!B\t~+!/~'2UIFF_ALLMULTI~'&g~0!d~(!C\t~,!0~*!eMASTER~'&d~0!c~&!A\t~*!.~)![SLAVE~'&c~0!Z~%!?\t~)!-~+%;ULTI~)+]10~2%?~(!E\t~-!1~*!iPORTSEL~(&j~2",
    "*E~%!C\t~+!/~*'OUTOMEDIA~(&k~1'Q~(!E\t~-!1~*-3YNAMIC~(&t0~/-7~&!B\t~+!/~(/P~19a~)/J~07L~,8m~*8L    @`\t~/!Q\t~/8H~5!D~+8D  ~-8H~+%Oiface~&6fifp~0!>~+:=xt~(2'#~O",
    "8o~H8N~)!!~)%Nmap~23|long~%4(mem_start;~;!Eend~/!Cshort~%!Dbase~-(E~,BEirq~4!:dma~4!:por~&>w~()v~)&?req~%&?~+*[HWADDRLEN\t6~,!:NAMSIZ\t~+7<~4*3~&%pfrn~%6m[~(![]",
    "~,)hr_ifrn~%%c~A*w ifru_~6*s~&!?~)*t~6!C~;+]~&!E~)B*~6!Chw~(!d~)(o~%!;~'CJ\t~)!4ivalue~,!5mtu~*%%~%*Z~'!;ap;~*'Qu_slav~-'R~+!?new~0's\t__c~(Sw~%'(~%A0~/(1u~'-;~",
    "+,er~%(i\t~((S.~))!~.!I~&&p~(!Ku.~+'-~.!M~3!K~2!I~*.,~,!L~*CY~+!O~,/0~,!Q~5/2r~()7~/!Q~'!9~.!O~%)+~/!M~%!7~.!Kmetric~/!L~&)W~/!Mtu~/!Jmtu~/!Gap~0!Gap~.!G~%)z~/!",
    "I~%!7~/'mata~0'jata~.!Iif~%BP~D&7bandwidth~D!Pqlen~D!K~','~1(aw~.+4_IOT_~%1Q\t_IOT(_IOTS(char),~(,f,~,!816,0,0)~4!i_~&.m~A!o~%!J),1~:!oint~B%ain~*!k~/3yconf~)6>",
    "int\tifc_len~59f~,/?cu_buf~,0Sreq *~%!<req~,/Xc_ifc~3/Xc_buf\t~(!D.~(!|~.!Greq~/!Greq~1'1conf~,'x~-&]~'&|~''o~7h4~5XC~&J1to~%+w~0XCifname~+Nn~.Wr~'K-toname (~-%",
    "(_~(,w~/Wd~(%![~+87]~,_W~(_Y_access ((__write_only__, 2));~2i7~+M4~)Ld~'&Qvoid~9Q3if_free~+!S~5!y__ptr)~QQ<db~5Q;~*Q>\t_NETDB~,o>~'!4~=Q<~6o;~*!;bits/stdint-uin",
    "t~'!C~2fi~+Qarpc~(&.~*Q_~-!XGNU~,!U~%%4~%RT/sigevent_t~/Rb~,!H~%(*_timespec~.%5~-!T~)%V~)S2\t_PATH_HEQUIV\t\t\"/etc/hosts.equiv\"~0!MOSTS~-!L~0!FNETWORK~)!I~'n5",
    "~2!LSSWITCH_CONF~(!Psswitch.conf~0!UPROTOCOL~)%)protocol~1%*SERVICE~)!Mservices\"`~1/D#if~'0Cd~+)? || !~.!:XOPEN2K8`~+Gah_errno (*__~'!/_location ())~.[7~5!I~--",
    "u~-ka_~%/(~%0n__~&.x~*%JHOST_NOT_FOUND\t1~*!=TRY_AGAIN\t2~+!TNO_RECOVERY\t3~.!;DATA\t4~).F~4ZL~(!Q~%-sINTERNAL\t-1~0!>SUCCESS\t0~-%0ADDRESS\t~'%;~,-1 ~5(7 ||~4!",
    "<_EXTENDED~+&;IPPORT_RESERVED\t1024~:.>~*!]SCOPE_DELIMITER\t'%'~6![~.rD~%2gherro~1m,s~.2Q~4tmhstr~'!c~&5Yerr_num~3l,~):Rhostent~%j/~'!m~)_N~&!3*h_aliases;`~%:v ",
    "h~%E.type~*!5length~.!Zddr_list;~;)x\t~&!L\t~+!S[0]~(%|~)SP~,'Hset~'&1~(&gstay_open~'sl~-!Send~)!S~%-=~/!|~.'0 *g~+%.~L!Tby~,r>~(s<addr,^-%(d~&qK~)rT~&'k__type~",
    "/&9~9%8~&;M~.*K~%<2;~6+4~K%%2~4%&~(t:af~)'2~3kr~'!x_r~):v~)%2~-|xresult~%u>~%=P^9%!D~(vybuf~('Z~1&8~4%*~&!Ni~1%I~'3Tp);~4&6~&)>_~1)A~+!h~<)L~.)I~)!6~N'1^<%'U~4'",
    "4~3%/~:'7~'%s~O':name_~11m~+!h~%*K~|&l~|&l~=&l2~C&m~)-<~*Fr~Q&x~R&y~O&z~>&|~*6=~34;ne~M4:~(!R~;3a~'!G*g~*%+~J!R~(45uint32^,%5t~>3l~0!m~C3j\t~33j~0*Q~&%%~+2n~(%6",
    "~<)q~M)l~/%&~9)f~M,a~)'q_~='s~(*j~L&V~S,J~I&]~P/E~))f~J24~|&e~r&e~1BIserv~.BIs~0BIs~0BIs_~&lr~*!V~%L*;~9AL~'%4~I04~)!S~;/]~(!H*g~+%.~L!T~:/H^0%85~%&X~J%%por~)&g",
    "port~:!u~90X~.+d~'%2~+0V~)%E~u?I~)%)~4%*~2-T~*'s~K;i~9!J~%'A~0;,~G&j~[<8~V&ppor~%(f~:)h~|&S~m&S~109~%%y~.0:p~00:p~00:p~A0*~(%%~I0+~*!T~;/Q~)!I*g~,%1~,!V~A!U~>;T",
    "~H!iumbe~**0~Q/a~(!z~+/b~*%5~>*B~O*?~1%,~G,q~+'P~K/g ~P&F~]EW~Y&L~%)5_~.)7~*%,~U&=~T&?~L&B~2*l~&GKgr~%-%~/,Fetgroup~*!_~2GV~'!_~-.<~3?D~(%/~&0.~.==ostp~+E*~.!Bu",
    "ser~:!Bdomainp~6%Jin~%%I~8&R~04Ihost^(%W>~.!=user~0!R~&%J~1'B~/&q~%,s~=&s~)3G~7&u~6!D~'&w~=/Jfer~1*c~,5;~:ZC~.&Krcmd~6&Ba~%'[^4%3a__r~%8]`\t\t~:8bloc~%(-~=!Irem",
    "~C!Icmd,~3ELfd2~7*Grcmd_af~_&S~<=o~,&V~<!L~,&Y~<!L~;&]~(!csa_family_~?awrexec~=&x~1&i~B5=~<B&ass~?!G~S)=exec~A)>~3)/~E&E ~F&H~c),~=)-~,&husero^1%j)r~,&as~<*qm~4",
    "2G~'+y~7(/~&%C~&(1~H%F~P%I~+![~=,9~,5[~)'1~+V-r~&ge~4%d~X'/~4%C~+'1~)i<~5%I\t~Q'+\t~I*1resv~*Og*__alpor~7;k~)!R~%&4~-!U,~4(D~*Hg~-6M~'xk~)I%addrinfo~%I%int ai^(",
    "%Af~*!3~%%*~+!4sock~,ucai~&?mcol;` ^+%o3ai~%m6^'%54^1%bg~'!C~*J<ai_canon~(JS~/%x~%!E^&%K(^&%K&~1z=~'!Ugaicb~&KQ~+)%ar~*KX~.!:^'%)1~*!=~2%Ir_request~6%kr~'B,;`~'",
    "';__return~('L__glibc_re~%N%d[5]~'Lm^*%dDGAI_WAIT\t0~/!8NO~%!:1^*%dF~)yR AI_PASSIVE\t0x0001~-!>CANONNAM~'!A2~-!ANUMERICHOST~&!C4~-!CV4MAPPED~&!?8~-!?ALL\t~%!;10",
    "~.!;DDRCONFIG~%!B20~4)&~*&YAI_IDN~%!O40~-'3~(&7~(!C80~1![_ALLOW_UNASSIGNED \\` ~)(<macro_warning (\"~8!Xis ^*%ti\") 0x010~3%<USE_STD3_ASCII_RULES~E%A~5!]~3%E2~%",
    "%E^(%jw~1)!SERV\t0x0400~,*)EAI_BADFLAGS\t  ^,%-UE~%*h~%*'  -2~.!<^&%/;  -3~.!;FAIL\t  -4~0!:MILY\t  -6~.!<SOCKTYP~%%27~/!>^&%3O\t  -8~.!=MEMOR~%!u~,*m~%!XYSTEM~",
    "%!=~/&FOVERFLOW~%!?2~=+,~&&xDATA\t  -5~/!=ADDR~&&K  -9~/!AINPROGRESS~%%p0~/!CCANCELED~&&61~1%DT~(!E -1~%.H~-%ILLDON~%'7103~1%ITR~&!=4~0!=DN_ENCODE~%!C5~*07~.'+^",
    "'%-|~(!bNI_MAXHOST~&;*1025~1!CSERV~&!C32~,%'~*!I~,0W1~4!=~%!j2~.!=OFQDN\t4~.!8AMEREQD\t8~-!:DGRAM\t16~=)QN~&0Z32~1!7~O06N~H0664~2%8~R02N~L02128~+5n~2Q+~)7Q~DYy~",
    "9!F~'9!~+!I~18[~/Kuq~,wR~*!J~0G9i)^4%wD~*&/~3%6ai^A%8Rgai_^1%8Ucode^/&+/~0TZame~,'R~1=g~.':a~&&a^+%/Ksa^&&*H~2'k~(VY~-!Shost~8!Userv~2%/erv~%!U~&&O~%Ac~+BO^2%=4",
    "~=*<_^)&,Vmode^)&2x~%?H~%E:ist[~*%h_arr]~'Vq~'(&nt~)!Z^(%IQ~0&Cig~7Ei~%(|uspend~/(D~'%Q~&!7~'%W],~+%D~1+_^(%JO *__timeou~%FY~.0KTIME_BITS~&/)^*%Bu(__REDIRECT)~,",
    "%u~*!: (~+&),~F&*^'%V'~?!!~+&P~F!T~B&u~9!o__~+&>~%!S64);`#  else`# ~)2?~,(p~4!Z~%!X~'=Z~(1V~/)X~'.U~0+(req^6&Bv~&!Zcancel~2![~%!,p^V&4&^,%S&~,Xg~&!!^,%T6INET_IN",
    "^/%T;~)!9^E&4.^7%T'^7&+M^3%S)^&%RN^0%Zu^(&H.~)RF^)&=F;`^.&>7^+%aQ~'!F s~)M(~&J.~.%F^(&IZ^.&+XPPROTO_IP = 0,^*&-E~)!;\t\t~*!/~.!WCMP = 1~3!YCM~,![CM~/!_G~%!_2~3!",
    "_G~-!_G~0!_P~%%z4~4%z~.&!~/&&TCP = 6~2!]TC~+![TC~.!ZEGP = 8~2!ZEG~+!ZEG~.!ZPU~%'=~3&ZPU~+![PU~.![UD~%![7~2![UD~+![UD~/':~%![2~4'w~,![I~/![T~%!Z9~3'8~,'7~.!XDC~%",
    "'q33~2!ZDC~,'sDC~/'tIPV6 = 4~4*WPV6~,)8V6~-!aRSV~%)u~3):RSV~+%DRSV~.%DGRE = 4~3'|GRE~*!]GRE~.)wSP = 5~3-9ES~,)xS~.%=AH = 5~3&]AH~*!YAH~-!XM~%(Y9~3):M~,(ZM~/([BE",
    "ETPH = 9~3-7~&!A~*!d~&!3~.&aNCA~%%I~4,_NCA~,&eNCA~/,dIM = 10~3*/PIM~+,eIM~-!]CO~&0c0~3%ECO~,0(CO~/0(L2~%'P115~2!bL2~,'RL2~/'SSC~&!b3~3(7SC~,!bSCT~1.nLITE~%!e6~5",
    ".sLITE~-.wLIT~.*|MPLS~%!h~3+_MPLS~+)gPLS~.)!THERNET = 14~3(A~(!D\t~0!4~.-qAW = 25~3'eRAW~+-pAW~/&4~&3l26~4+xP~-3p~%!2~.!eAX^*&-v#if !~&B2KERNEL~%/o_DEFS~67tHOPO",
    "PTS~67y~'!A~*%N~'!4~.&uOUT^&&<7~4'e~'!B~+'!~&!4~-!jFRAGMENT = 4~3.B~(!C\t~0!4~19c~%3/58~69f~-31~%!3~-!gNONE = 5~355NON~++TNON~.+QDST~''o6~3'p~'!B~+5?~&!4~.)EH~%",
    ",=5~2**~+1=MH~&)l~)km~,>Z16~&>Z~%lat;~3=lORT_ECHO = 7,~,!8DISCARD = 9~-!;SYSTA~%-D1~.!TAYTIM~&/4~-!<NET~(!V5~-!<F~&9A~.!nTEL~&.O2~.!mS~&592~.!jTIM^&%jYR = 3~.&<",
    "NA~+!?42~-!?WHOIS~'+x~+!:~&%357,`~-%4~&&!6~.'/RJE = 7~.%DFING~%%?7~.!QTTYLINK = 8~.!USUPD~%>H95,`~-%FEXEC~)&:51~.&;LOGIN~+!B~.&CCMD~+!?4~-!?EFS~*!?20~/%EBIFF~&?",
    "M~0%BWHO~9%?ROUTE~;%%^(%oY~%7h24~/!BUSER~+!F5000^,&C<~(ItIN_CLASSA(a)\t\t(((^*&dc)(a)) &^'&DG0000) == 0)~2!d_NET\t\t0xff~&!M~4!FSHIFT\t24~3!?~%bx\t(0xf~'!! & ~~",
    "~-%,~4%DMAX\t\t128~2&IB~<&Ic~-&I~*&X~2!m~*&R~&&T~4!F~&&R16~3!?~=&RB~6&RB~&&R65536~2&TC~<&Te~.&Tc~9&TC~,&Tff~3&TC~(&T8~3!>~=&S~%%+)~2&5D~<&5f~.&5e~4&5^)&Mt~%!p~,",
    "%&~-%<EXPERIMENTAL(a)~H'T~5%BBAD~%%3~L&5~)!2~-.<ADDR_ANY\t\t~,!k ~%x3~(!S~/!R^*&XX~/!W~((H~2!W~&9|~:!S~0!TDUMM~2%f~'*e8~.!U^)&Xo~%*h127~)W. ~'!u~(!E~*mW~/!<~0%8",
    "7~&'T1^*&78~*;&~&!aUNSPEC_GROUP~0!e~1)0~(!YALLHOSTS~=![1~4![RTR~'!Z    ~6!_2~4!_SNOOPE~)!d~5!a6a~1!aMAX_LOCAL~(%E~5!_~&)m~;Dd~*YN6~.YO^/&=nuint8_t\t__u~&!M8[16]",
    ";~&!<~%>o~)!=16[8~(!=^'%35~'!=32[4^+&N|__in6_u;~)&Ws~&!K\t\t\t~'!>.~*%>^<&.0~'!]16~3!_16~1!L32~3!L32~(*y~-BX~-o,~/'T in6~%(Eany;~G!Nloopback~*&sIN6~(/l_INIT @~%",
    "!%^'&?|~8!% $ $ $~1!l~(-a~K!q1~'!q~+!rET_ADDRSTRLEN ~*8.~%!>6~,!?46`^+%ht~'qN_in~)*t__SOCK~%%nCOMMON (sin_);~(ci~&FR s~'!.^.&Z_~&,S~%!A~&d0`^3&WUsin_zero[size^+",
    "',d~(%b)~&p, -~2%__SIZE~)!C~(!g~)%i)~1!>~.%l)]~(er~E.<~+'G6~?'H6~5'I6~+'J~).6~%!;flowinfo~/'i6~)'j6^,&[t~-!bscope_id;~.-%~2.H~)0]p_m^(&[a~4),imr_multi~,)1~3!Hin",
    "terfac^*&q>~.%0n~e%1address~(!Fint~&%If^)&rx$;~0%F_source~p&Z~9!H~&%:~+lm~+(Q~C5>pv6~8(_~(1Spv6~4&*^.&Mi~&!I~0(e~C*3group_~-%Q~)+1g~:'(~)-5storage gr_~%!r~/(g~&",
    "%.~&'K~8%5s~M%6s~)%7~C!M~&%G~)+t~,*Psfilter~;*Msf~D*Nsf~2&6~*sbmsf_fmod~7!>numsrc;~:%*s~%|f1~*2*~)Wg_MSFILTER~%32(~&!q) (~02p~*&i) \\^'&;c~93>^(%M!~(!M+ ~)%(*~8",
    "!X)~/)m~0(*~*)if~L)hf~.)g~,!l~6'|g~6'y~4%)~*((~,(&~%As_~E('~,&g~*((~2()~0%L)~/(1 + (~(%4^*&AU~)!B  ~2(I~1!z))^/&3[~(>Y~)'Antohl^0&.*long^H&Mo~+!w~%Clntohs~&!w~'",
    "D!net^&&c!~&C[~Q%%~%%ihton~.%yhos~&%z~W%%~%%ohton~.&'hos~S&(^+%&Pendia^)'L0^-%&ibyteswap^3%(Ouintn-identity^.'14OPTIMIZE__~%ZM if __BYTE_ORDER == __BIG_ENDIAN^,",
    "%GY~%)[(x)\t__~''d~(%2 (x)~.!Ls~*!L16~7!L~%(Y~D!w~%(*~<!w^(%/|~5&HLITTLE~(&K^+%0J~+&Kbswap_32~'!w ~3&F~&!G16~0!G~+&A~8!m~+&;~0!m^.%1V~1:(GNUC__~,R:6_IS_~+QZIFIE",
    "D(a) \\`  (__extension__\t~&!!~(/r   (@~7Jh*__a =^/%6B~*!B) (a);~,!q~%,Oa->~3Lh[0]~%WP~0%M   &&~:!Z1~*!Z~K!Y2~U!Y3~&!Y; $))`~6(/~(Li~|(,~|(,~|(,~P(,~'4>1)~=(4IN",
    "K~%W?~|(5~>(5(~<(6&~(&=0xff~&_Z))~+&U0xfe~&j6~=&aSITE~|&a~|&a~-&ac~C&a^(%b+~|&_~|-U~u-U~+'wff~?'YCOMPAT~|'Y~|'Y~|15~0!Y~'D/~;1<) > 1~4(3ARE~&(4EQUAL(a,b~|(3~<(3",
    "~9!qb~>!qb~Q))__b~8!C~R)?~9!s1]~R)W~9!s2]~R7+~9!s3]~&*,#~'C>~E?c\t((~'(T~)IC~&)C)~,-+~(%v\t && ~9!U1~Q!U2~Q!U~'>9~G>5~|&W~|&W~/<g~H<c~%z=~:&d~58d~,%e~5;R~H;N~r%",
    "Lc~>%L~.:;~?%K~%*P~3(O~?)a~M!W~48v~H8s~|&8~R&8~4!W~'7Q~;,)~%7Q~H7N~C&i~5!Cb~%!C)~O'(~9!q1])~N'>~9!p2~J!p3~>!p3]~+]B#~3*]^,%/N~.%68~2*Xx^(%'!~0l&^+%c6bind^.&2=^&",
    "&xsfd,~1chin *~&!B^0(&5~7!x6~C!y6~,!z~-[Y;^4%,_~+'1C_NOD~.1V~8'R\t~4-1~7'g1]^&%2!^'%1u~&,U~6%P~14V~w%P2~;%P~14Z~w%P5~;%PORG~|%O~)%O8~;%OGLOB~|%M~&%Me))`^3%u+~',",
    "Icmsgh~%rO^I%1>pktinfo^0'e=~+x!i6^4'_u~&wsi6~0|2~*t]6_mtu~4%+~-.Fip6m^4%'0~%!;mtu~/xs^0(*o6_option_space~(/fn~%hx~;i|^+(-Y_;~9!|ini^'&WU~%IQ^*(/i~'(: **__cmsg^,",
    "(1W^+'!I~]%Kap^&%xb~0%A~&%?~%%>\t~/*]~&%E^)(/%mult^&'MN\t~&!4plusy~L%g~)%(~.%llloc~9%k~'%Ldata^-'7U~,%f ~,%b~d(znext~/NC~4'T~&(r~)&N*__tptrp~e%Ofi^1&%c~L%O^-'+)",
    "~I%[~7-3~/,0ext^1(9,ext^.(2M~5!o~(+R~C!q~(&:offse^+'09~(&g~&&U^1(:_,~+!Ealig^+&fS~&%D*~&*pbufp~A&(finish~S&(~0;q~5%,set_val~*%-~'%i~/&w^)&O0val~+)q~,%Sval~D(N~&",
    ",P~Y(L~20;~*!a*~%(M~)21~U(:d~f%m~2*;~d%kg~|(y^.(IZ~)!K~&%Irth~.7V~&&R~'DMegments~2&5~&%T~*!j~37E~+%cbp_~+'|^-'C&~B%9~*'Lrth_add~.%6~:bDddr~A!ureverse^0&X7in~*(8",
    "out~A!m~(&7~0!nb~3)u~1&!~*!n^'&81~2!m~('c~%>5^3(I4^1(99pv4^&%7H^&%0>~)Iz^1(H|_^*%30~%!4~&8z~1!I^'&qO~*MP_^&%2|~&!S~,!:^&%0l^4(J7sli^=(PLt s~|&5~,&5~6&4~)&3~+>!~",
    "J&=~/(Q~7&:~+%;~3&4 ~0iz^,&An~&&?~(!K~,.2~%!=~)7o~2(r~-E&*~-&e ^;%7u~)&k~:)(~|&e~I&e~9&d~1&c~5%?~<&i^S&:Ltcp^8'mg^1&:[ ^)&:ETCP^/(C9~*!:^;'n%~*Tf\tTCP~&TXAY\t\t",
    " 1~-!;MAXSEG\t\t 2~)%2TCP_CORK\t\t 3~-!8KEEPIDLE\t\t 4~2!<NTVL\t\t 5~1!=CNT\t\t 6~-!;SYN~&!:7~-!:LINGER2\t\t 8~-!;DEFER_ACCEPT\t 9~-!?WINDOW_CLAMP\t 10~-!AINFO\t",
    "\t 1~.&tQUICKACK\t\t 1~0&wNGESTION\t\t 1~.'&MD5SIG\t\t 1~.'%COOKIE_TRANSACTIONS\t 1~.'/THIN_LINEAR_TIMEOUTS^,%X5~)!HDUP~'%l~.'BUSE~)!a\t 1~.'GREPAIR\t\t 19~3!;_",
    "QUEUE\t 2~.'C~%!9_SEQ\t\t 21~4!]OP~'&I2~.'MFASTOPEN\t\t 2~.'KTIMESTAMP\t\t 2~.'NNOTSENT_LOWAT\t 25`~.'pC~()+26~.!=SAVE_SY~%%=7~2!>D~(!?8`~4&?~&*J\t 29~5&>_CONNE",
    "CT\t 3~.'FULP\t\t\t 31~3*._EXT\t\t 3~6'=_KEY\t 33~6!ANO~'*]\t 3~.'IZEROCOPY_RECEIVE\t 3~.*sINQ~%%f~/'HCM~&!=~(!H~.(hX_~(0+37~5'I~&,q~5!=FF\t\t 0~7!>_NO_WP\t -1^",
    "j(Pj~+!<tdin~%!8^(&-H~*:ptcp_seq~&>m~'5<tcph^+%kT^-%(y^+%ke~&!B~(8d^.%kx16_t ~%F/ort;~.!7d~'!7~'%K~%!Keq~.!4^&%hl^E%D!^(%m; th_x2:4;~-!5off:4;^-(Xx^>%GG~3!d~2%1",
    "~(!v~,!=^'&xi~)qOTH_FIN\t0x^,&siTH~%.80x^,&saTH_R^&&sV4~-!8PUSH\t0x^,&sNTH_ACK\t0x^,&lYTH_URG\t0x20~.(<win~/(Osum~/!5urp^)%p6;~A)Q^(%YO~*!5dest^,%q<~&)I~)!2ack~",
    "&)]~K)K~%%&res1~)(O~&%8~,(d~%!5fin:1~,!4sy~/!4rst~.!4psh~.!4ack~.!4urg~/!kes2:2~%)vl~F*k~7&)~2&N~(%)~;%M~1%r~1&<~1&b~1',~''O^*%N0^&&Y9\"Adjust your^'%QF^)%R'~'+",
    "0s\"~.,p~%!vwindow~,%0check~/&C_ptr~/+.$^&%Yrenum`@` ~%34ESTABLISH^&&3O,~'!:SYN_SENT~,!3RECV~(!3FIN_WAIT1~0!42~(!4TIME~%!5~(!4CLOSE~-!0~-!CLAST_ACK~)!3ISTEN~,!T",
    "ING`^-(QcTCPOPT_EOL\t^,(*m~'!:NOP\t^-(,k~&!:~(Cl2~.!=LEN~)!>4~1!Y~':a\t3~2!Y~7!>PT_SACK_PERMITTED~0%%LEN~0!F2~5!j\t\t5~1!;~*>/8~2%%~*!A10~3!B~%!>_APPA\t(~1!W+2)",
    "~2(4~'!WHDR\t^&%8/(~*(6<<24|~,!216|~0%x<<8|~1%9)~)It~+%=_MSS\t512~0!9AXWIN\t65535~2!>_WI^(&7=4~+!BSOL^&&[>6~/%4I_~-%qS~/*Q~&!C~&(N2~3!=WSCALE~/)O~&!>ECN\t~/(i~)",
    "!<_SEEN\t^,&(t~*%;YN^&(4432^'&Fm~%<Xca_state~)/3CA_Open^&&Lj~)!6Disorder~,/GCA_CWR^&&bw~)!5Recovery = 3~+!:Loss = 4`^+%qNtcp_^)'77~':N\ttcpi~&%e;~0!9~(&&~1!<ret",
    "ransmits~1!?probe~2!:backoff~1!;~&p*~2!Tsnd_wscale : 4, ~&%Hcv~+!8;``~*S2~'%lto;~1!8a~4!8snd_mss~2!<rcv~&!<~1!=unacked~3!s~7!;lo^&'8%~/%0~&'h~2!<facket^'%|e~/!q",
    "ast~%hb_sen~3!|~%!D~&<X~9!C~%!frecv~;!f~&!C~2%Pp^'%%'~2'Sssthresh~3!Bt~4'!ttvar~6(f~:!rsnd_cwn~3(6adv~6)Fe~%-qing~4*Rcv~7%qcv~&kd~3!Ytotal~*)<^&%yv~3MyMAXKEYLEN",
    "\t80~6!FFLAG_PREFIX\t1~9!EIFINDEX\t2~-/Gmd5sig^,)*S~1[ptcp^*%*L~+./m^*'D3~-!9prefix^''CS~(=]~&!>key~'!;int\t~&!7^+%,B~-!nkey[~4'.^('A=~+&Arepair_opt~)1m~%(;opt_",
    "code;~0!8val~'!m~-?-NO~&V*~(3.RECV~.!5SEND~.!5~%!0S_NR,~&!x~3Y2MI~&6+~3!=AX\t\t~/Xw~'!>~%PxSIZE\t(2*~.!W)~6%6IN_ALWAYS\t(1 <<^+&PY~,!JOUT_NEVER~'!J1)~0+PS~%7N_I",
    "N\t~'!G2)~4!DOUT~(!E3)~/+sSS_DEFAULT\t\t 536U~3!CSIRED\t\t1220U~-)Ncookie_~%-Hac~%5a~))W~(*zct~2+U__~&!<pad1~/+%ct~(%%desir~*4?~+!ws~&2_~:!Eus~*!:~*%'value[~/&u",
    "~:,'~&H=~-,* ~%8.l1;~1!7~.2, max~'!g~-!:~%8Y~/!O~%!7up~2%Wzerocopy_receive~)%Z64_^&'5Fe~.36 ^*(I1~*%-ecv_skip_hin^('NP~'k;~5k.^+(We~Ak,~-k0RPC^0(Z*~-!8~;k,~)!S_",
    "need_^&'hk~+!Qstddef^4):/~''Vrpc^.'z8r^0'z8r^0'z8r_^&'r'~'ME^.'z4~&!w^,'z2op^4%+m^('os~(!T^/(a|~.zc~'!I*g~%%/^;'yT~J!h^-'yS~&!1~H!d~4&)~3b;~.wC~)&1^2'x5^&(/s~/%",
    ":^<(56^7'n]^/(5.~(!q~)!r~,&*~4%p^/'wW~&!3~F%l~J%n~X%p^.(%o~5%Z~0%R`\t\t\t~0%U~E%M~Kw*x86_64-linux-gnu/^)'2F~Fw+^&'5f~(XgNever us^-'38 directly; ^6(h|^()Ml.\"^0&",
    "5c^.(]0UAPI_LINUX_IN6_H^'%h|^,(]:~%!GIPV~6!B~>!c~&![~-Qt^6%If 1^0%iS~7!L0~,&L~(2q~'!!IP~(s=~&!34~3!EHDRINCL~&!33~3!ETO~'!e   ~+nG~+!ETL~*!E2~3!ERECVOPT~&!n6`~7!",
    "FRE^&&xS~&!3~%!/~5!NT~)!r~+znIP^*%O&_IF~,rm~-!>TTL~,rl~-!?LOOP~,rfIP_ADD_MEMBERSHIP~,rbIP_DROP~-!B6~,!BUNBLOCK_SOURCE 3~-&'~.!>8~0%C~&!<~-%+9~1%J~2!I40^4&Eg 41^",
    "<&](M~%&|JOIN^'&b942~0!A~-&)43~0!C~/&i44~0!ELEAVE~(%-5~5%K~'&I~'!H6~6!i~.!I7~0!I~*&p~+Y_~-)eALL 49~-!AUN~)*c50`~0!zEXCLUDE   0~0!>IN~(!>1^2%cPP^&&x5R_ALERT\t~-*",
    "fPKTINFO\t8~/!8~'/1\t~-)mPMTUDISC\t1~.)]TU_DISCOVER~/!>RECVERR\t^*%+,~(!9TTL\t12~1!9OS\t1~.-BTU\t\t1~--7FREEBIND\t1~-&GIPSEC_POLICY^-&aqP_XFRM~'!=\t1~--+PASSSEC",
    "\t1~-'(TRANSPARENT\t19~6/(~')>~-(;ORIGDSTADDR~(1e~1'6~.!H~.!Y~-!tMIN~*2Y2~-'lNODEFRAG~&!>~-'qCHECKSUM~&!>~-'vBIND^((rp_NO_PORT^,%+S~'%tFRAGSIZE 25~3)K_RFC4884 2",
    "6~.&|~(*I_DONT~&,'~3!AWA~%!A1~7!a~/5F~,!APROBE  3`~7%GINTERFACE~*6: 4~6!OOMIT\t\t5`~85A\t\t\t~<5C\t\t~=5E\t\t~<5G\t\t~=5H\t\t~<5I\t\t~:5J\t\t\t~D5L\t~E5L\t~65L\t",
    "\t\t41~9-<\t\t4~-%*~*2X\t\t\t5~-!x^&&t2^&'-oANGE\t\t5~.*<^')(0\t\t\t52~+)rSOL_IP\t0~-)8~'R1~/(|~1<i~5!N~%)/~3!NMAX~+'6~+=e~'/[^6(:2^*&ZEopts^2%hS^(%hR_d~&hJ~'H%",
    "~'!T[40]^1%hFn^1%iM^'%i!~,_Z~3%2i_spec~*%8~3!E^3&g8~-.5V^&&qeFORM\t~+d)~%!<2292~(6y2~2!>^('A63~2!>^('<_4~2!>RTHDR\t~-82~*%:~(7|6~.!B~(3%\t\t7~5%WLIMIT\t^+%9.SCM",
    "_SRCRT\t\t~%!LRX~%!1~/&xNEXTHOP\t~-9>V6_AUTH~%%x~-9%V6~),tHOPS~,bL~%!A~-1:17~8!A~&!c8~8!CLOOP~.7xV6~+?u\t\t2~/%g~+?0\t2~/)A~-<U2~/)C~-;k23~1!A\t\t2~/)>~(<*\t2~/",
    ")=V6ONLY\t\t26~3&3ANYCAST\t27~4&4~)!B~9'9ALL\t29~:&U_ISOLATE^,%>L~,&*~(8b\t3~/'F~,=9~.5_V6~-=;3~/&n~'Kn~%5U`~2%D~(-f4~/&0~(!;~.3b~'!Y~),J5~/%y~)!<\t52~5![~%.E53",
    "~1!Z~%!;\t5~0)DTHDR~(/&55~2!y~(/'6~3!]\t\t57~2!V~)!u~/)C~(!;\t59~3'MATHMTU\t6~/'3~(!;\t6~/'/DONTFRAG\t\t62~4(JTCLASS\t\t6~/&4~)!;7~03.UTOFLOWLABEL\t70~43O~%sWER",
    "ENCES\t7~1%HMINHOPCOUNT\t73~/!A~+C<\t7~3.%~,!D~0!U~/&>~+EL75~61vIF\t\t76~2%5~(C2\t7~/)9~)G[\t78^?'Sm~+Kk~&'?~,=4~/2,~/!Q~0??~02>~(8(~.&3X^+'TV~*,Q~0!I^+'Q1~*+F~",
    "0(z~-ET\t0~7!AWANT~09=~+!a~09=~.ER~09A~2EP~09H~.EG5~1?DV6~)F*1~.!>^&'Up~%!!58~1-6TH^&&EdSE~0&i~&!>STRICT~%m-~2!ATYPE_0\t0~Fbg~9nu~,bh~&n]~.bc^6)It~+bj~%c,~)!;~6",
    "ba~'?/^&(yu~+nGn~0nGn~0nGn^-)>D~)r%n_ne~&qt~E'!^(%'2~9qy~)',BITS^*'2?~+qp~/!<\t1`^,'X]^2(WZ^+(I0^'%m7~'!r\t^1'3L(sa^'%(?^&&TY~+!b ~)!>##~&!7~,s(^4'6*\t^)&zg~2%h",
    ")^,%%A_SS~%!U ^&'P)~Kie^(%RQ~<'r~*'W^,*G0~1!;~*!USY~,!S~<+Z~(%O~1+[^-%TE~3+c~*%U~Bvh#^6%Ua^|*Ha^+*Ha^1(&Q~%&L_type^-)TJ PF^'&U5~+0oPF~&Nu~+3P~%!KIX\t\t~(!?~,!=F",
    "ILE~6!=INET\t~+4'PF_AX25\t~+3tPF_IPX\t~+3dPF_APPLETALK~+J-PF_NETROM~+I|PF_BRIDGE~+IvPF_ATMPVC~+agPF_~%%G9~0%p6~,I=PF_ROSE\t~,a=PF_DECnet~,a<~&%[BEUI~,a<PF_SECUR",
    "ITY~,aAPF_KEY\t~,a<~&!gLINK~,JL~%%OUTE\t~*!C~,!?PACKET~,JcPF_ASH\t~,JTPF_ECONE~-aG~&'9SVC~,JCPF_RDS\t~,J9PF_SNA\t~,J/PF_IRDA\t~,J&PF_PPPOX~,J%PF_WANPIPE~,IzPF_L",
    "LC~-IuPF_IB\t~,IjPF^''sQ2~-&CCAN\t~,IRPF_TIPC\t\t3~-&?BLUETOOTH~,I8PF_IUCV~-[RPF_RXRPC~,[HPF_ISDN~-[<PF_PH~%'m3~-&EIEEE802154~,[-~%&!IF~-Z|PF_ALG~-ZqPF_NFC\t~,Z",
    "_PF_VSOCK~,ZLPF_KCM~-ZFPF_QIPCRTR\t4~-&ISMC\t\t4~-&HXDP\t\t4~-&GMCTP\t\t4~-&FMAX\t\t4~,KpA~)08~)0C~,!?~&0A~1/kA~+0HUNIX~,!<~)0GFILE~,!<~&0F~'.Z~,!<~&0L~'0U~-!VP",
    "~&%2IP~-%1~*0W~,0g~,!F~'0e~)0o~,!?~'0m~)0w~-%)~&0u~)1'~,!?~(%x~0%w~%1*~(13~,!=~&10~'19~,!<~'15~)1?~/&5~%1<~*1H~,!B~)1E~+1Q~,!D~%1N~&1V~/%!~%1R~31=A~+1Z~%!,~,!=~",
    "'1X~)1e~-'SSH~&)3SH~,!:~'1f~)1p~/(1S~)(1S~.(1~%1t~&2!~-&pNA~%!:SNA~-(I~%2!~'2-~-&-~%2)~(22~,!=~(2/~*2:~-,oLC~&8[L~-%iIB~&%5B~,!8~&2>~'2H~,!<~%2D~&2L~,!:~&2H~'2Q",
    "~-+e~)2M~,2Z~-%P~%2W~'2c~-'W~%2]~(2h~-!W~%2e~'2n~-'CH~((q~&!-~-!Y~*2q~-3'~.&ZIF~'&[IF~-)WLG~&*5LG~-+MF~&&uNF~-%s~&31~(3:~-,ACM~&,AC~-/7~(3;~*3G~-*MM~&%5SM~./4DP",
    "~&/4DP~-):~%3L~'3U~-!<A~&1JMAX~-Gi~%N0RAW\t\t2~+YLSOL_DECNE^'(Yz26~.NeX25~*l&62~-!?~'./263~-!:ATM\t\t264~.!8AL\t\t26~.%I~%-+2~+XZSOL~)0n267~-!;~':s8~.&6CCP\t269",
    "~0!i~%0X270~-!;~%,B27~.&_~&+W27~/&WPPOL2TP\t27~.&Y~*,p27~.&aP~'=(7~.&c~&>:7~.&c~%-<27~.&_~%+q27~.&_~%+m27~/&_FC\t\t28~.&Z~%+L28~.&ZT~&>.~.&Y~%+)28~.&U^&(3x28~.&",
    "Q~%+=28~.&O~%,,28~,:kSOMAXCONN\t4096~6He~&Q&>^2'ef^='b;a^('b9~%Rvs^&*W'[14~*re~,K|ss^&&OVtype\t^1*BR~*!MSS_PAD~%OM^&'+M~(O[^8'eX^+'Nm~.%5^+'R;^0%Vv~=&Ts~-&T~%!|",
    "padding[~+%q^''nn~.%C~+!2~*',^-(2OMSG_OOB\t\t= 0x0^+(CI~)!<~'!,~)!RPEEK~'!S2~.!S~%!=~(!,~)!TDONT~&:Z~%!X4~.!X~*!B~-!1^3(]1~(!wTRYHARD\t\t=~.!h^+*MJ~,!K~/%&^('pN",
    "~&!sCTRUNC~'&J8~.%m~'!?~*!.~*')ROXY~&!Y10~/'*~%!>~)!-~+&0~)%72~/!W~*%6~.%5DONTWAIT\t^)*U]~/'b~%!A~,!0~)!bEOR~&%;8~/![~%!<~'!,~)!RWAITALL~(&M~/!W~(!B~+!/~)!aFIN~",
    "(&P~/!Z~%!=~'!,~)!SSY~'!S4~0!S~%!=~'!,~*(tONFIRM~(&F~/!W~(!B~+!/~)!aRST~)&J~/![~%!>~'!,~*'XRR^&&;/^+*U2~,'a~(!C~,!0~)!dNOSIGNAL\t^+*U2~+!d~)!C~,!0~)!dMORE~)&_~/",
    "!a~%!?~(!,~-)-FORONE~)&a~3)1~'!F~.!2~)!kBATCH~)(b~0!g~&!B~)!-~)!Z^(&9U~*!]~0!a~)!F~,!0~**Z^(&>G~((9~2!h~)!G~,!0~*0.C~%!(LOEXEC~,%V~,sZ~0!L~1!4~*6I~'4t^&&hQ~)3J^",
    "&&U&msg~)i2^,&L1~(!;len^/'i8ovec~&!]iov~'![~%bG ~'!7~*!W~*%2contr^&)2D~-!S~'!;~&!W^+'s0msg^*%do^,%/Rc~/&B~'!scmsg_~1!m~'!9ve~'%I~)!7~&kW#if^)(vwc99_flexarr_avai",
    "lable^5&;w^,'|g^&&lL~%:p _~(!g;^-()7`~D%6~)5d~%)?DATA(cmsg) (~&!+->~+%8^1'=%~2!Y~.%x*) (^1&qx) ~'!R+ 1^*',k#~,!zNXTHDR(mhdr,~%!_)~(&onxthdr ~,!>~.!bFIRS~)!d~&m4",
    "(~%lL_t)~&![)->~.*+ >=^0'j2~'&()^-'F=? ~4&H~2!z :~4!M0~/&!ALIGN(len) ((~&!++~*%W~'&,- 1^''m0 &~*!9~~(~4!L~/%/SPACE~'%/~*%A ~&!5~&!z+~+%Z^1'nd~('*~0%'LE~'&1 ~.%'",
    "~8!f +~&%D)~.Cl~%!bPADDING~('-~0&R^('F>~8!!- ~''d& ~6'9~B!j~8!_^0)dq^/&w&~)+b~-2o *__~%+s^+'qA~6!g^,%ah~,B%EXTERN_INLINES^*+%a~.!<^+),?~.!<~'0hrn_inline^)&<i~/!",
    "K~0%h`__NTH (~F&Y~8&O)`@~(uL^1+/W __~+-P_ptr = ~20c~&%1~-.';~5!t~%%z~:!mcms^&&)2^)%fR~%!,needed ~9/x~:*W+~/,4~('S->~(69)^&&,yif~+1N~0!H <~8%J~&%K^&)DH~50s~%7E~'",
    "%.~(%/~*&*(~2(2+~4'xlen~%MX~('j~)!j<~.'K~(!;|| ~3%=~]%A~.(5-~6%F~(%d~/(4)`~E'M ~'!_ =~55<~8*Z^+)if~.3M~2%W;`~)%U~(+B$~*zd~.OWSCM_RIGH^&(fxx0~+Uw~*!=~*!.~2NC    ",
    ",~%!FCREDENTIAL~'!s^+%bu~0!D~/!3~+!m~(jY~&!j3~.!j~)!A~,!0~+!dPIDFD~&!a4~.!a~&!=~)!-~.=y#^8)Nxucred`@`  pid_t p^&(:ku~%!0u~&!0g~%!0gid;`^=(4s^6*X1time^1*XRasm^-+",
    "18~->qSO^'+.M1~1!z~&!X-constants^-+1z~'&Olinge^,))gt l_on^'&>Q~(!4~&!J~(DX^R%.+^'%)g^<%.0^Q%-T~'!z^R%-Y~%,v^'%,*~'!m~%)QSOCK_STREAM^&&Dx~+_d~*!=~+!/~(!XDGR~%!W2",
    "~0!W~&!<~*!.~(!U^&(sE^+(pF~)!9~(!,~)!NDM^.)+a~)!9~(!,~)&4EQ~&hv = 5~1&7~)!A~.!2~)&=C^0),9~*!:~)!-~(!Q~)%610,`~/%8~,%5~'%2~&6B~%!5~(N+= 0~'OE~0&!~(!F~,!0~(!eNO^&",
    "%_Y = 00004~%O<~-!e~)!F~-!1^I%:1^-*elo~*f<~*,%~*!9^*%2i~)Cl~1!? 1~+PV~)!B~%+C^<%:<~2=-~-g+~K.Z~,-7~:.T\t~/.T~&&8~.!9^;&2K^1*en^:*io~%Rn~%1d~(%3^C%8=^8%6r^C+BC~=",
    ")S>~09<~%03HUT_RD^.)!2~'!8\t\t~'!,~(!LWR~/!HWR~'!HWR~*!sWR~0!pWR\t~*!?^*+G]^.*e'cplusplus || !^'(1dPREREQ (2, 7)^3*ip^&)QR~)+j~)kYARG\t\t^3'*A^()GI~,!YCONST~.!b",
    "^7'+,~'7o`~6%CLLTYP^))Q>~)!;ONETYPE (~(!o)~B!F_at~E!Ix25~D!Kdl~D!Ieon~D!Ji~G!I6~F!Jarp~E!Lpx~E!Jso~D!Jns~D!Iu~E&cx25)~6*1~'!P(~%sp~(*q~%r[^.)O&##type##__;^+%Jui",
    "on @~4+,`~'FE$~/,l^3(Bqtransparent_~%!y^&(C%# u~'5c~0&'~D&D~--?~r&J~2.Z~j&P^9)U)~(S8~0eE~-SPmsg_h^5'[A~*eh^0%pS^-'8i~%5A^(&>1^&*2I^-'ER ^+*:*col^;)Yb~&!rpair~K!",
    "v^+*%A~&!<fds[2]^<'k'~(%,fd,~9(md~%Vi^A+kH^0'>[ck^&&FI~,%/~4%)^.)Zc~.+8^2+g=~/'Nconnect~Z&B^3'Appeer~z&5~(_z~'Xase~.(S^/'HW^-*?R^1)_v~5!yrecv~,!y~_!ssendto~K%s~",
    "1+Slags~>(e~*!W~,(n~%4N~)(s~8&ffrom~4&j^9*DDn^**rg~+%p~8)W ~8)X~2%q~*G-^0)b<~3(%msg~2(&~2d;essage^)*f*^,)fu~&Rq~(2n^()c!~0%;^,)c>~'%H,~P%I\t~0)M)^(&Lu__~'!z^')a",
    "q~%%g~1%Q~)!H~P%H~0%F;~+hv~('n~+%-^:(R*^-)j<~*j&~8)&~%4Yendm~/(|~.6x *__v~'&*^**9g^/+<h^5)l3^+(VD~6);^0)hS~(%_,~L%a\t\t~D%_~+.U~''t~*)L~-)M^('Yj~(!F~M%Y~G';~.)Z",
    "~+)[~()]^7(Wo~O.Vrecv~7)V~1+[ ~f.M~'%>~(,R~R%F~*.D~'!q~=.D~)!H~V&[~)(U~('L~+!x~q.6~%%%~w.6~)!M~(EK^,)pUmo~V.V~(&'~K.V~9ry~)!!~C&D~C!k~7&b^;)s7~(&F^8)s/~)(m~,!O~",
    ">.S#~E)q~'CNop~-B:~&!-level~(!0opt^-*K?^5,4kopt^''l|~1<w~1!M~.Ap~A/G~.*%~&|N~*&7~3/J~>&>\t~B&<\t~D&:~*03~*%[~306~&%N~,!G~O&!~B%|~K(9~)+'~+)|~.%n~4*z~F*ys~[*y~.E",
    "U~'&X~-Dg~i*]s~c*]~J%z~,Aw~B*Ds~Z*D~U'b~+;c~+*,s~?*,~,&-listen~2&%~4O_~,!]acce~.*H_~;Jp~EI*~59%~1%B4~I%C~B%D^8*31~2Uzhutdow~3'Mhow~-'O^6*RB~/Vqatmark~*!t^4+Lb^5",
    "&OQ~+!oisfd~%]0~1%f~&!;~4!|^'%AZUSE_FORTIFY_LEVEL > 0 &&~+kDfortify_function^7%%22~,mh^T&tAsys/u^>*.(SYS_UN~0qgU^1*-xsys/cdefs^5))0~,op~0r)^1%ZHu^>)F[un^.%]wun_",
    "path[108^*%]y~=qi~*rW~-!8ring~'&9~(/_SUN_LEN(ptr) (^&(,2^4)0Xun,~)%Y^-)5n~&!-+ strlen (~%!q->~)!P)~L)>arpa/ft^M'tcARPA_FTP^1,Vw~%!7~&yL^,&04RELI^-&UiCOMPLETE^+&",
    "/?CONTINU^,&?8TRANSIENT^+&/BERROR\t\t5~,%0\tTYPE_A~+%0~&!5E^+&0L~&!5I^+&0K~&!5L\t\t4~))XFTP^&)n?`~%*/*typenames[] =  @\"0\", \"ASCII\", \"EBCDIC\", \"Image\", \"",
    "Local\"^6&Y!\tFORM_N~,%z~%!5^,&2K~&!5C~%%z~6%gform~2%gNonprint\", \"Telne~%!-Carriage-^'%9O~8%lSTRU_F~,%l~%!5R~,%l~%!5P~;%lstru~2%lFil~%'ARecord\", \"Page~8%YMO",
    "DE_S~,%Y~%!5B~,%Y~%!5~<'Jmod~3)5Stream\", \"Block~%'Gompressed~8%cREC_ESC\t\t'\\377'~.!;OR\t\t'\\001~)!; ~&!;F~&!;2'~-!sBLK~&!X0x^*%p0~'!9F\t\t0x^+&/-~%!9RRORS^",
    "&'j4~,!RRESTART^&'jf~-!=BYTE^&&P72~</w~%'Der^G'9W~:03^')wx_H_~)&2~1!<~/5Zparam^2*?8^*'s6^4'rt~(4XLIBC~,uD~(%6DEPRECATED^2',U~2!H^9(Gb~3** NS^'%30SZ\t5^+&;4NS_MA",
    "XDNAME\t^&*Xb~-!<MSG^''](~.!;C~&!V^,%|Z~&!<^&&V5^+%zyNS_HFIXEDSZ\t~.%HQ~(!:4~,!9RR~)!R0~,!;INT32~0!QINT16SZ\t2~/!88SZ~+52~%!7ADDR~2!f6~'!:^+&=INS_CMPRSFLGS\t0xc",
    "~-%V^'&ndPORT\t53~%(5~(yq^'%;Wns_sect @`\tns_s_qd^&%/B~&!1zn~,!1an^&%;m~&!1pr~,!1ns^&%;S~&!1ud~,!1ar^&%;?~&!1max^&']u ~'%L~(Fa~(%m~':|~%%omsg @`^((T1^,%5c\t*_~%",
    "X?*_eo^,'tt\t\t_id, ~)nEcounts[~(%K];~8!use~%B9~.!O~'%v\t\t\t~'&&\tin~%!1rrnum;~;%m^&'oC~%&d^&%QH~(?b_ns~%%pdata @~&kJmask, shift;~%?8^4)hn~-!_~,!0[]^-'Va~&%B_i",
    "d(handle) (~(!-._id +^,%_U~'!Qbase~4!Smsg~5!Ten~5%-eom~5!Ssize~8!T- ~-%>~1!c~%)A~'!G, ~')%~-!m~')f~'!>]~&%R~++)\t~,+)rr^(,Br\t\t\tname[~+13]~-*x^&%j,~+!4rr_clas",
    "s^+'|2\t\tttl~.!Id^('MH~4*I *\tr^',]. ~%%a;~.)9r^&'J|(rr)\t(((rr).~%%x0] != '\\0') ? ~)!; : \".\")~/!ityp~(!ins~%!1)~&!r~%L8+ 0)~0!V~%&S~*!W~%!2~'!X~(!B~5!]ttl~",
    "'!Z~%%.tl~1**rr_~%'9~+!K~('J~6!Pata~-!Pata~*)R~42Lflag~'2Lf_qr~&1Hf_opc^&(Ax~%!1aa~(!-tc~(!-rd~)!-~)!Bz~)!U~)!Ac~*!K~,!ymax~&)Dfla~%/k~4%o~&%U~'%qo_qu^&'oC~'46o",
    "_i~(!5~'4,o_statu~'40~'!6notify^&%Kq~&!5update^&%KP~&!5~&496~&%e~&%F~-%g\t~*%gr~+%fr_no^&%P*~)%hr_former~+5r^&+)5fail~*5jr_nx^&%0o~*5pr~%&&mpl~*&'r_refused~&&(~",
    "'!7y~*!b6~(!Lyxrrset^&*=L~(%1~(!68~+%0auth^&*=Z~)!6zone^'%MO~&!7~&'611~)%Bbadvers = 16~,!8sig~'!7~)!6ke~%(h7~+!6tim~%%/8~'/=~((2~2)t~&(q_oper^&,0;~&(;uop_dele~%",
    ")4~'%yuop_add~*(:uop~'&42~&%7~0!t^-%|Bns_tsig_key^)(7K~'SO~12f, alg~/2x~1pS~&2*^,,N&~&80len;`$;~0;7~,%P~+!/~1%wcp~&!?stat~%+O^&%4Bunte^+,Qtdst~%!q*~%!j\t~&d'ctx",
    ";`\t^0)z%~%&E~(Cm]~&;* sig~;%|~.%T~1!5;~-DtTSIG_FUDGE 300~1!=^&'i-UNT 1~3!BALG_HMAC_MD5 \"HMAC-MD5.SIG-ALG.REG.INT\"~2%A~%Jx_NO~%!1^&+)-~8!FSPACE^&+)6~5!GFORMER",
    "R -12~71ztyp^*&:vns_t_invali~'CI~*!:a^((&,~'!3~(C2~)!4md^((&%~(!4f~&00~)!4c~%8;~%01~)!7soa~&0.~*![b^**JU~&!4g~&0*~*!4r^**Jb~&%]ull~'0(~)!7wks^+*Jq~%!6^&%q_1~,&0",
    "hinfo^+*K(~&%/~(!8~,&8mx^+*K6~%!5txt~'0h~)!6rp~'0g~*'bfsdb~%0h~+!8x25 = 1~,&>isdn = 2~,&>rt^+*LA~'(Iap^'*eT~-!7~'&W2~,&B~&2]2~,&?~&2]2~,&Ap~%1E~,&?gpo~%)[~-&Baa",
    "a = 2~,&Aloc^'*fU~*%[~%'93~,&?e~%*y3~-&Aim~&!c3~,&Csrv^'*fq~*%Ftma = 3~,&>na~&&j3~,&Akx = 3~,&Ace~%'h3~-&A6 = 3~,&>d~'+l3~,&Asink = 4~,&Bopt^'*h(~*!u~&8s~,&>ds^",
    "+*O|~&!sshfp^'*WF~*)npsec~&(b4~,&Brr~&)24~,&Ensec^'*h0~+&2s~'!f~-&Ihc~%(?49~/!f3^'*h9~.!8~%Uo^'*gu~*,Wlsa = 5~-(pmime~%!9~,&Vhip = 5~,&;n~'-j5~--B~&&%5~,&;tal~&",
    "(75~,&;c~%'j5~,&9c~)&i6~.(eenpgp~'!=~,&;csync = 6~-&<pf = 9~,%(u~(/m0~,%'u~%'k10~,!yg~'!7~,!xunsp~%(m10~,':n~'!O~,)ol32~%!7~,'Pl64~%!7~,'Ol~%0p0~,'Neui48^(*iI~,",
    "!9~'!f~,&Lt~'/e~-*'t~'05~-*'ixf~%0a~-)za~(!8~-5cailb~%!93~/!9~%0>5~,&fan~&18~,&furi~%!7~-.v~&1&~-*9av~%1'~-*7t~%0+276~-,hlv~'!99~,8,~'F?5536`  ~%?y~&Nb~690~&Kq~",
    "&B+c~.9,~(!6~*B'c_2~*F7c_cha~%3T~'F4c_h~%0%~'D=c_n~&Dx~%'D~&!5~+'A~&!4~,&)~%&'~'PO~5&&er^&%u.~%&+~&!1_pkix~'%t~'!5spki~'%y~(!Hgp ~'%z~'!5url ~()L~(!7oid~&!7~'ZB",
    "~*%>;~0cJOPT_DNSSEC_OK~(Ca^&&HhU~0!LNSID\t\t3~0!jGET16(s, cp) do @ \\~7Rzt_cp^*)]y~/!A)(cp); \\`\t(s) = (^)*'/)t_cp[0] << 8) \\^&%[y|~1!F1]~)!A~&!ocp) +=~+ca; \\",
    "`$ while (^+*Qu~'&C32(l~o&Cl~*&C32~.&C24~1&D~*!G1~%!G16~;!G2~7'4~*!F3~='432~>'4PU~3)T^*(Y?_s =^**,+)(s~&&q~7'P~9'J~%!F++ =~%!y>> 8~*!:  ~&!:~T)JPU~3)J^*(dZ_l~(&",
    "8~%'V(l~f&8l >> 24~6!;16~6!;~2&ll~I))^.%*)~%g&~'biget~%Y?(~&!3, in^,(%4^,%D?\tns_get16~8,N~3![long~'!]32~C!]void~%%npu~%%7~,%O,~H!]32~+!]long~<!_~('2initpa^+)/M",
    "~/!W~%'?,~'fK~5!iskiprr~9!f~6!:^'%9D~'l%~0(Q~(%*~%%lrr~((| *,~-!V~%!1r~6&Tsprint~*%k~*!i~)!3r~+%Y^.+ce,~0!1~'!+^*&=g^*)B9~2vk~2%Uf~9'F~&!y~/%?~)%g~)9_,~(;n,^.-2",
    "b~+!O~W%0~j&gformat_ttl~1+Z~Y!z~%*&~&!y~.%w~-%/ *~C!y~)ltns_datetosecs~0%&int~E!t~(%rname_ntol~9)Z~7(a^0%pU~0!xp~:.!~.!o~7!jp^1-_N~:%[~7!junpack~T/Y\t~o'2~=%S~5",
    "2/~?-:~8&5*~=%Wunc^'%0B~8%_^)%j?~c!C~F(r~0%_~?(5~(%.~7'8~=!B~8%Sski~8,'~8(6~0(5~)8I~%!xrollb~;)q~j&?~*4|ame~'oH(~:6/^.-h|~=5wub~p!vmakecan~2/M~7*M~C%same^2(H2~Q",
    "%r^.%D'^*&Kc^+%6x~%+xa^'%5,^'%3p^:%7O~)!R^T%7C^&)xx_^/%D_~0!B^7*O8^5%/W@~*F%\tid :16^(&n7^<*Nd~*!Xqr: 1~+oy\t~&xY: 4~,!8aa~/!Jtc~/!4rd~%!4~,!5~0!Xun~%x!:~-!8ad~",
    "/!Jc~0!4~&y|:4;^+-(E^A))L ||~3!GPDP~3')r~0%ftc~0%wa~/!4~&'L~%%g~,'u~%!J~5&5~;&[~1'(~5'Or~&%S~(+y~+%Fd~%ug~&*!~+%%n~5!:ns~6!Rr~+!:$ HEADER~+u-~(v1\t~+v=~)!A~(xs\t",
    "~+y'~,!AC~,!BC~1!C^&%<r^+%=&~)-M^)%<x^+%=,~)!aQ~+!AQ~0!A^*%=-^,%=:~)%(~'Mz\t\t~*N.~,!?16~*!?16~+%&^'%=C~'!>8~-!Z^'%=1^+%=U~+!A6~,!B6~1!CDIR_MASK\t^,%=h~*RN^)+A7",
    "_PORT\t^.%=s~*)!S_ZONE~&3u_zn~+!;^&&HE^(%=O~+!<UPDATE^(%=L~+!<ADDT~'!qar~*%2QUERY\t^+%.P~*'C~,!>i~.!?STATUS\t^,%.g~)'!NS_NOTIFY_OP^,%.u~,!E~&%y~)!E^&%)=~+UuO^'%",
    "SO^,%.T~)!B~'|,\t^-%.b~*%nERVFAIL^.%.m~*%*XDOMAIN^.%.x~+%JTIMP\t^-%/*~*+]EFUSED\t^-%/5~)!BY~-%)y~0%)YXRRSE~&(W^)%/K~+%j~,!Bn~0!BOTAUTH\t^-%/d~,!B~)*S^)%/o^.%XFD",
    "ELET~&!F^*%.;~)!BADD~)!>add~*![T_A~'k;~+!6NS~(s=~+!8MD~'k!d~,!8F~'!8f~+!8CNAME^+%&o~+!>SO~'%>so~,%AMB~'!nb~,!8G~'!8g~,!8R~'!8r~,&+ULL^*%'.~+!<WK~'&Fwk~,&GPT~'!m",
    "pt~,!nHINFO^+%'<~,%G~*!>m~0!>X~'!;x~+!8TXT^)%'J~+!:RP~'v.p~,(UFSDB^+%'S~+!>X25^)%'W~+!:ISDN^*%']~,%/~'%Fr~,%ENSAP^*%'P~/!<~*'3^(%'p~,)-I~'(Wsi~,(XKEY^)%'x~,()~'",
    "'0p~,'0GPOS^*%((~,&uAA~(+Raa~,*7LOC^)%(1~,&(~((%n~-(%EI~'+rei~,+sNIM~)!o^&%(A~,&SRV^)%(E~,%eTM~(%etm~-->A~*'Ma~.'JK~'&sk~,&sCE~((]ce~-(aA6~'%/^+(z2_D~*-ad~0-aIN",
    "K^*%(i~+!<OP~'%0op~-%/P~'-6a~+2bT_D~'(Vd~,(TSSHFP^+%(z~,+6PSEC~))h^(%)+~,+>R~)*Frr~.*HNSE~((Kse~,(IDNS~)!z^&%&P~,!AHC~()Hdhc~.)JSEC3~*!y3~0!>PARAM^0%)U~,.iLSA^*",
    "%)Z~,'(MIMEA^,%)d~-0>~''Dhi~--e~*0:n~/0:R~)&Zr~.&XTAL~))G^&%)z~,*W~((sc~-(tC~,'Vc~1'WOPENPGP~)!F^*%*9~,!kSYNC^+%*?~,&zP~'5Gsp~,5HU~*&Zu~/&ZU~((vu~-(tG~(!:g~-!:^",
    "&'o0^,%*V~-'o~'!Xn~-!XL32^)%*]~,!:64^)%*b~,!:~'(vl~,(uEUI48^+%*i~.!>~(!peui~-!rT~)'rt~/)8~),lt~.,kIXFR^*%*z~,.]~)!<a~.!<MAILB^+%++~/!>A~*!>~,+_AN~'%lan~,%kURI^)",
    "%+6~,)s~(43c~-42AV~'(_av~,(ZT~(-E~,!PDL~'3Qdlv~*<jC_IN\t^(%*E~+!9CHAO~&Cp^'%*C~+!?H~(!<hs~,!pN~(>d^&%*U~+!=AN~&E+c~%&l~)DAGETSHORT~%HjGET^++ZFGETLONG\t~(!>~**f\t",
    "PU~+!Z~%zq~,!>~*!Z~%xw~=VNtel^7.Sj~<VI^&+i[^1%y&~(!:^'%y)~)JKAC^,%i_\tDONT\t2^*'le\tDO\t2^*(Gl\tW~&!D~*&nWILL\t2^*(Hp\tSB\t2^*(IE\tGA\t2^*(Ip\tEL\t2~*-M\tEC\t24",
    "^)'f1\tAYT\t24~*'YAO\t2^*'|=\tIP\t2^*'|d\tBREAK\t2^*(!1\tDM\t2^*(!T\tNOP\t24~+%nE\t2^+%r=EO^&(gG2^*(%s\tABORT\t2^*(&A\tSUSP\t2^*(&h\txEOF\t2^,)iTSYNCH~%%J^(%p-T",
    "ELCMD^)%|+elcmd^&%uo@`\t\"EOF\", \"SUSP\", \"~%%D\", \"EOR\",`\t\"SE\", \"NO~%!BDMARK\", \"B~&!*I~&!XO~%!)Y~&!]C~%![EL\", \"GA~%%+B\", \"WIL~%!7WON~%!MD~%!ZD~'!",
    "1IAC\", 0,^&'1%^+&7F~/&1;^0(6?\t~&&[^&'JX~%'7~0!=LAST\tIAC~0!;OK(x)\t(^-%%2)(x) <= ~+!b &&^''H6~2!N>~)!N~%%O)~/%2(x)\t~(&5(x)-~,!P]~+KbTELOPT_BINARY^+(6B~'!;ECH",
    "O^,&);~&!9RCP^,&)>~&!8SGA^,&)B~&!8NAM^+(]%~)!O~&R75~0!;T^+(5q~*%;T^,(5s~)%'OL ^,)A8~)!:P ^+(5|~*!:CRD^,%tE~*!<HTS^,(6-~,!<D^,%uQ~*!<FFD^,(64~*!<VTS^,(66~,!<^-(s",
    "V~+&?FD^-)C;~&!<XASCII^+(6'~('3LOGOUT^+(6-~(!<BM^+(6-~(!8DET^+(6.~)(PUPD^-(]K~.!<OUTPUT^+(rR~)!CNDLOC^+(6F~))4TYPE^,+rM~(*jOR^+(6J~)!RUID^+(6N~(!:OUTMRK^+(6U~+%",
    "-~%%G~1&r3270REGIME^+)ye~(!AX3PAD^+(6k~*+jWS^+(6j~)%4SPEED^+(6o~)(EFLOW^,(6s~(!;INEMODE^,(6z~(%KDISPLOC^,(7(~(&dLD_ENVIRON^+)*_~(%;AUTHENTICATION^+)*d~)(!NCRYPT",
    "^,(7B~(&SEW~*%(~1'4EXOPL~%8u~*2FN~&!?S\t(1+~2!l)~+5POPT~+5Popts[~(!d+1~(5Z~&0v~&4kH~%4ARC~%5/SUPPRESS GO AHEAD~%5eAME~&5t~%0;\", \"TIMING ~(5wRCT~&67AOL~'!+P~%!",
    "V~&/R~'!6HTS~)!-~(!7FF~(!-VTS~(!WV~)!CL~&!C^&-pf ^)&6n~&.4~%7FYTE MACRO~%!dDATA ENTRY TERMINAL~'&SDUP~*!- ~&-j~'8JND LO~&)G~%&X~'!_ TYP~%&REND OF RECORD~%!XTACA",
    "CS UI~%%q~'.cMARKING~%!j~%-5~%!O3270 ~&-(\", \"X.3 P~((*W~&'w~%,R~%&SFLOW~%!Z~(,4~%!W~',%~%%:LD-~')x~%:4~-+]~&:9~&+N~%%0EW~*!Q`\t~'9u~.+E~&9L~-7=~1.0A~*!F~++M~1",
    "0G~>9g~(!q)~/!]~'98~%,,~'98~)%k]^1*kU\tTELQUAL_IS\t0~1!8SE^&-z,~0!P^-(tM~)!:REPLY~3!;~%pI^*(eF\t~%(m^&*,H0~0!8^-&=v~&!7^'&7<~%HF2~7!?XON^'%LC~*!EM_~%2-~,!wM_FOR",
    "WARD~%nc~+!tM_SLC\t~,%xMODE_EDIT\t^,'QP~&!:TRAPS^&,vt^/&<?^&*('0~*3M~%!9SOFT_TAB^'*(X~,!>LI~'=T^.&9v~%!?~%%x0x1~+).~&!Y~%5!\t^(,v7~,!=~%!r\t^(,u0~,!=INBIN\t^(,u",
    "!~-!>OUT~(!?8~0!?FORCE\t~%%q^+'FW\tSLC_~&F=1~-!7BRK^-&B8LC_IP^,&F(SLC_AO^+(RP~&!5YT^+(zV~%!6EOR\t~+?U~%!J~%H;7~/!KF^+)]g~&%kUSP~*?K~&!JC^,(yg~&!6L^,(RI~&!6W\t~+",
    "?8~%!6RP\t~+?2~%!6LNEXT~+?.~%!8X~%,<~.&=XOFF~+?!~%!7FORW1~,>x~(!82\t1^+,2_N~%+i18~.,VSLC~%.'LIST\t^'&D1YNCH~?IlOR\",~&GB~,Je~-K%E~%3D~&J7EW~%7lP~)!Y~%&p~%3s~&3]",
    "XOF~%!d~%&H~(!,2~&JB~&9z~)&%~(:!slc_^*&FG@`~-&G~7Jz~+!X;~1'*S ~-!i~0KD~(!A~=4'NSLC~)3x~)!w(x)\t~*%Kx]~/%!OSUP~%|3~.+%CANTCHANGE~/-AVARIABLE~/-E~'|r~/-ILEVELBITS",
    "\t0x03~.%JFUNC~/%E^&-(;~0%?LUE\t2~.!cACK^/&I.~&!fUSHIN^-&I1~*!<OUT^&&I3~)!>~'Ba_VAR~+%E~*!9LU^+(oV\t~'8p~%!R~4!9LU~,'SENV^&&L!~*JsENV_USERVAR~(5n~+-;AUTH_WHO_CL",
    "IENT~,71~)!>^&%(>~,6<~)!>~%4>\t1~2!zH~%7pE_WAY~0!zHOW_MUTUAL~,2r~*!>~%!z2~.!wTYPE~%wR~0%t~%!<KERBEROS_V4~/%x~/!C5~/%A~%!CSPX~,4=~)!;MINK~,4E~)!<CN^-)=z~*!<TEST\t",
    "\t99~(Wv~&&Q~,/Iauthtype~./N\"NU~&Vk~+&E~.!25~%1FPX\", \"MINK~<V|~0%3~2W*~*(%~>/g ~,&r)~6!f(x)\t~/%Bx]~-*;~'CE_IS~,)<~(!9~(0;~-,I~&!>~&?P~+)2~)!XTART~,)3~(!<END",
    "~,)1~*!pQ~&!W5~4!>~%!Y6~3!sC_KEYID~+9m~(!?DE~(!?8~1!?~%*J9~-'&~%'U~%h80~1!:DES_CFB64~.'(~)!?O~%!?2~1!?~%%63~)+B~(%N~,+Eencrypt~/+DIS~(MT~'8X~%(:~%!7TA~'8mN~&JNR",
    "EQUEST-~)!<~(!4~%!E \"ENC-~%'.~%ayE~)!0~(I&~)%W~3,zAN~%%D~)'&\", ~&!1O~(!1~9,h~/&T;~1!B~6--~1))~A--~+)R)~5!d(x)\t\t~.%a~,9(~()*~D%7~2.A~,!d~(%7~/.?^:&[nt^T&jkT^",
    "4&jlT^,&jm~)8sE^&)1e^&*;2~+!<RRQ\t~+I7WRQ\t~+I,DATA\t0~+4MCK\t~*I5\t^&%8G05^(&;n\ttftphdr @^'.kf\tth^)&Dk\t^''T[`^&-f6\ttu^)(Np3];`^)'b_@`\t\t~+!P\t\t^.'jF\ttu_",
    "block;~%!A~)!7~'%4\t\t$^3'U5packed__)) th_u3;^)-glt^&.f%[0~%%S~D!c2;~+&<stuff~&!c~D!b1;`~>!J^*%EQ\tth~&&e\t~%!_.~%%J~%!)3.~('(~,!Pcode\t~6!Pcode~,!O~%&/~(!O~'&>",
    "~,!Ddata~/!r^(.iN~*!Imsg~6!H~-7-UNDE~-RJENOT^).Qr~(!7A^&.PF~-3lOSPACE~,6nBADOP~-6iBADID~,M?EEXISTS~.6VOUSER\t\t7^;/40ether~:xK~).P_NET^),ov^-)-3~.!< 1`^P&hr~(!8",
    "linux/if_~%%f^=/=5~%!F_^*'sz^'*YY~*!:_octet[ETH_A^'*5+~A+U~.%+heade~.%-~'!=dhos~-%)~1!Fs~6!F16~)%v^&&.p~C%f~))JTHER~%4CPUP~1UL~*!BSPRITE\t0x05~*!D~+!eIP~0UR~+!A",
    "AR~(!B6~3!BREVARP~%JN~+j_~+!eT~&Jn9B~4!A~'%+80F3~3%+VLA~%WC81~5&RIPX~&!B~+kC~,!BV6~%!C6dd~3!d^),WM0x9~-X2~%!G^'+_PEN\t~().~/!D~&!kEN~,/(~%!<CRC~%!;4~/!;H~+!wH~2",
    "!wMIN~%!C(ETH_ZLEN + ~-!x)~0!UAX~*!UFRAM~%%b~2!Z~0&UIS_VALID_LEN(foo)\t\\`\t(~%!- >= ~-%a && ~&!=<~)!=~&%G)~/N.~*(+TRAIL~)]8~2!DN^'/9t\t16~/!fMTU~%'FDATA_~1'JMI",
    "~&&k~+%q- ~-(.~)!3~*&|^I/D/_arp~A2x^'/C|ARP^3/D9~%!9~G2r^7-;=~+32~02m~)cIAX~*+s7~/RcRPOP_~'F'~,PE~'!;~.iZ~'!9~(!S3~2!<PLY~,P:~%!:In~(!U8~3!=PLY~+c-~&!;NAK\t10~)",
    "'w~'4-ar^-*q5^3(-4ar_hr^:/4gar_pro^4/42ar_hln~7!=p~1!=~-!zop^&%i/0^5,W]__ar_sha~.5P~6!Jip^),b;~3!Ct~F!lt~'!l^.(Y(~)*7ARPHRD^()1!0~0!;~%-8 ~.*3~%!;~%!<~.*5HRD^&)",
    "2n3~0!9PRONET~.*3HRD^'%;p5~0!:^')(k~+=Z~(%-RCNE~,j%~(!;PPLETLK~.+'HRD_DLCI~,hg~(!UT^-%*w~'!9METRICOM^,)<J~+%f1394^,)<Q~('2UI64^-)<.~(!XNFINIBAND^&*a)~/!CSLIP\t2",
    "^+)_K~('<~'!<7~4!U6\t2^+)_J~,!V6\t2^+)_K~'!=RSRVD\t26~1)XADAPT^-)(X~(!VOSE^-)'?~'!;X25^-)'B~'!:HW~&!<2~1%gAN^-)%Q~((6CTP\t29~1!;PPP^-',e~(!mISCO\t51~1(gHDLC\t~,",
    "!I~0!ELAPB\t51~1(1DDCMP\t51~1*sRAW~%%!51~1(3RAWIP\t519~1)DTUNNEL\t768~6!=6\t76~1(lFRAD\t7~2(6SKIP\t7~2(7~)=R7~2(:LOCALTLK 77~1'LFDDI\t77~1)fBIF\t7^+)+_~(%OIT\t7",
    "7~1'YIPDDP\t77~2,fPGRE\t77~1&zPIMREG\t77~1&yHIPPI\t7~2*CASH\t78~1&y^'):M78~1&wIRDA\t78~2&sCPP\t78~1&sFCAL\t785~3!TL\t78~1&uFCFABRIC 787~40?802_TR ~,yj~.!B11 801",
    "~9!A_PRISM 802~:!GRADIOTAP 803~8!J54 804~:!B_PHY 805~1,=VOID\t  0xFFFF~16J^&-pF~%!AE~.:_^(,cD ^3/PGarp_pa;~9!?ha^*(O_arp^*(r=~6!S^+/hj ~(:kp_dev^&,xN^-,e?~&%m_o",
    "ld~|%q~<%q^-*asATF_COM\t^.%*dATF_PERM^-%*d~&!9UBL^-%*]~%!9USE^)/]7^&+/D~+%.NETMAS^&&V'~-u*~%!BDONTPUB~-ub~%!<MAGIC~&v:~.7yD^(%vu^-(Za~%!<LOOKUP~-&H~&!<~%vX~'x2~",
    "*(Xd^(.,3~<B4^)/?F^++oJ~/>[^)/SNdev~8!>stam~9!]^&%w9d~4?aha[~,FQ~)*y~JI7~%SO^A)dEI^()JH~-X2~,!9^H-cr^-)9X^3'Vfpkt^='Vgpkt^('Vh~.'/~%!=device^()9q~1).~%!H^,.4J^9",
    "(P5~('Dpp^]'I'~(LaPPP~1[q~(!:~P[o^-/?5/if~2MIioctl~2!Oppp_^)'[d~1]?~*M4PP^(*DE~+Y& ~%!9AXMRU\t650~/!<VERSION\t\"2.2.0\"~/!Y~&/,50~+.N^(-_%X^&.2nb~/!<DNA_RT~&0B0",
    "027~.Sc SC_COM^&*9>\t^)-8)1~1!DAC~*!B~*2F~(!BTCP~*!C4~,!dNO^&'*5CID~*!F8~,!FREJ~1%2~+2c~,!F~,%62~-!GCCP_OPEN~)!C4~1!CU~*!c8~-!AENABL~%_f~'!D~,[x~(&aRU~(%+~,W. S",
    "C_DE~/!E2~1!EBU^&.7g~%!c~-!?LOG_INPK~'(P2~4!DOUT~)!E4~4!ERAWI~'%M8~4!D~)4v~&%P0~,)>^&%,40x0fE0fff~,w1SC_ESCA^&.:[^(-G%~,!B~(%'4~/!? SC_VJ_RESE^&%0v~2!CXMIT_BUSY",
    "~'[/~0!DRCV_ODDP~'eQ~4!CEVN~%!C4~6!CB7_1~'f|~7!C0^'%A0~0!CDC_F~'u?x~'(%~0!D~*!C~&%N~-4enp~%0m^+/V&\t~,3a ^&&r0NPmode\t^&,xN^,)5Fppp^(,![^&'LT^*+Io *ptr^,+Fd^)'G",
    ">int\t ^(+2*~'!w^2'k3~'%1ifpppstatsreq ^-0.Yreq\t   b^+.DKppp_~%!Q ~%!);^,+4?~%!qc~:!r\t~0!pcom~3!u~((0ifr^&*me^'&s_b.^4/g&~'!Q~%!g_ptr~0!Q^-/bC^,(-k~*5!IOCG^&%",
    ":!_IOR('t', 90^&&dt~/!LS~)!LW~&!L89~5!LGASYNCMAP~+!z88~6!z~,!O~(%%7~6%%UNIT~,!y6~6!KR~(!z ~+!P5~6%N~-!P~(%O4~6%'MRU~,%N3~6!y~'!J~(!s2~7!JAXCID~,!M1~.!M ~'%EX~4&",
    "I0, ext_accm~0!USX~3&N79~:!UXFER~((,~'!R8~1%!COMPRES~,*&77, ~6/-~1&?NPMODE~%!c~'&=76~)!d~'0V~1%C~+!Y~'!X5~A!XG~&7F~*'Q65~5((S~)!L~'%*64~6(QIDLE~,!v3~-&ridle^+&v",
    "FSIOCGPPPSTATS   (SIOCDEVPRIVATE^.'Qq~(!QVE^&%uJ~2!Q1~2!QC~'%*~2!Q2^(-Lx~&!Vd(^'/ow)~-1.^3/p0etric^O+qO/if_shap^6'll~0pBSHAPER~3pE~(!<~|EK~3E0~)'z~&%JQLEN~*nX~/",
    "!ALATENCY\t(5 * HZ)~0!DMAX~&fJ~0!<BURST\t(HZ / 5^,'!p~'!DSET_DEV\t^).Uu~2!C^&%lO^(.Ux~.!DG~-!f3~4!C~+!f4~*La~%)0conf^-+5) ss_cm~%OZ^*0C8~)VVssu~%7O~+LN~(:Yssu_s",
    "pe~&PA$ ss^--Ras~&!?~%!:.~)!O~,!D~%8p~)!C~%8c~NPfslip~F+WLI~4wy~&!: 1`^5%.C~&%,>~;%Rppp-comp.h~1!g~*!>>~6!_~'M0~.&&PPP_DEFS~0&'~*!;~.-X^6)3b^-)3a~3-z~)%u~*Nd~9&",
    "broute^C+*.^&*%c~0&2~'!8^S0Lz~B0=^=/ofwordsiz^'*:.~(-+rtentry^;03Hr^*+=w~2a3rt^1*d:~,!?gateway~:!Den~*ch~4[Qt~-b_~,!;pad2;~=&.3~4Wort_tos~7!=^''=5^&&f3WOR^&)p==",
    "= 64~5%Q4[3]^(%Hg~5!D~+zp~/!B~&7E~+fe*r~%Y]~;&O^'+Pp~7!B^*+A>~8'ui^'+O0~,GErt_mss\t~&%-^,*jW6_rtmsg^9,U*~%!B^3*j>~-!Csrc~<!C~-*J~)3y~&!?^(*LD~+4v~)%C^+0))~.!?sr",
    "c~.!?~+!x~,(E~4'lmsg_^*-Yv~/!d~++_~+!R^/,Wh~(EmRTF_^'%:]~+8Y~%!:GATEWAY~(8T~-!?^-.mK~'(vRTF_REINST~'i(~+Y&~%!Y^(0Cp^(.mO~+!>MODIFI~'9-~+Xp~%!?TU~&%s4~/!;SS\t~&!",
    "dTU~-!<^'+jp^(.mN~+!=IRTT^0%r8~&&2JECT^/%=h~%%+STAT~&&.4~/!=XRESOL^&.q=8~/!wNO^'%up~%_h~-YsRTF^&&wD~'VT~/!]^(*Wv ^')js~+>p~%'n^'%i,~3Z7RTF_ALLONLINK~4Z8~%!E^'.q",
    "j~,Z7~-!ELINKRT~3Yn~'%s^(*pT~&)'~2!gCACHE~4W>RTF^&%vl~3X%RTF^(*k/~+Xf~+!CCF_VA~'(?~(%G~-!BMASQ~,Wy~-!ANAT~4X_~%!?DO^)(ck~5&0CF_LOG~6&0CF_~&!bSRC~7&4^(*Bv~2_.~&+",
    "k^)*a-~3_3~%,b^)0On~3_5RT^,0Wv~3_6~%)2^&%EZ~)_3~2*:LASS^'%||F~0_ZRT~*!H(~%18)\t^+'JQ ~%!6 >> 2^,+WERT_TOS(tos)\t\t(~%!+ & IPTOS_TOS~%cj~.!S~%'NADDR~*%4~&%*&~2%|",
    "^)-Wj== (~)(6|~-'|)~.%.~%!c^(*Gy\t0~2!>~(.3253~3!_MAIN\t^,&KO~*!>~&)b^-(8d~+![X\t^.&6H RTMSG^&%s<NL~'!.~/!AOVERRUN~(!E~'!2~0!jNEWDEVI^'&'Y1~/!BDEL~+!B2~2!c~%Bz\t",
    "\t0x2~3!b~*!A~4!aUL~%!?3~4!_~(!?~0!]CONTROL^'(C*~0'5R_FAILED\t\t0x51~:Eqash/ash^B0h=ASH_ASH~/Er~)!9^K._g~,xp~0xlash~=xlash^*-tkt ~%!3^-+,a~/y*ash_chann^()y:^-(p",
    "a~%!Cp~*<v~2!c^&*f?^,%+s~)'%ASH_CHANNEL^/%mv~-!>~()!1~5!BREALTIME^9(GQnetatalk/at~AO+ATALK_AT~0(y~)!:~.M&~7L]~1(|~0Lz~%%b~<KP~*T,OL_~%%N~'iF258~;&ex25/ax25~B&fX",
    "25_~%!(~/&g~*!;~W+g~.&3X25\t257~,)tX25~(?N1~.!9T1^,&&x~&!62^,+2&~&!63^,*eG~%!6N2^,*eo~%!6BACKOFF^+*eF~%!:EXTSEQ^+&PP~%!9PIDINCL^+&PP~%!:~%cd^+%FW~%!OAC~'[=~.!OP",
    "MAXQUEUE^+,O%~'!>AMDIGI^,&PL~%!;KILL\t9^,+ErSIOCAX25GETUID\t\t~%cJPROTO~'cL)~1!OADD~6!O+1~2!QDEL~7!Q2~2!QNO~7!P3~2!PBPQADDR~4!R4)~4&[PARMS~3!R5~2!RS~:!R6~2!ROPT",
    "RT~4%X7~2!PCTLCON~4!Q8~5&0^&+0d~2!R9~5(nFW~6(n0~5(o~8!R1)~0-n~%(o~*Gk~4!ABLOCK~0.8SET_RT_I~&mt2~0%&DIGI_INBAND^/%9'~)!BX~%!A~%Dj~0!eMAX~%!HS 8^1'Bt~.deax25_call",
    "[7~&6I`~%!5^)+r=~28cx25~*SI^-*y]x25^+)d8  ~,!q~'!Ccall~,9(x25_ndigi^**6j~)%Cfull_~7%H~3%h fsa~%!,~3%Mfsa_digipeater[~.'L~(9E~)fx~%!buid\t~,%s~)%j~%!7~%bDs_~/(%~",
    "-%D^&/K3^)-0T~-!?dest^4-2'~%(jdigi^&(Lv~4!aig^&+EY~7&A~.%zctl~Z%w^'.-a~P&=int ~'l/~0WKarg~v&n~,&minfo~0&n~-%l n2, n2~+%<~-!Ct1, t1time~4&Rt2, t2~9!B3, t3~8!Bidl",
    "e,~%!)~8!F^),<!~/!;rcv_q, snd_q~4&sfwd~C)efrom;~7!?^&,;,~1*i~%,h^&-+!~j,k~-*E^&%Kdg~5%Jbpq^'*W0~229^+%MR~/%=a^-/**~,<iVALUES_IPDEF~%4P0~5!DAX~(!D1~5!D^'%f>2~5!A",
    "TEX^-%kz~+!>~(?A4~5!BCON~%%D5~5!B~'B66~5!AE~'!B7~6%e1^,&Q3~-!=2\t~0A8~(!=3^-&QC~-'%2^-&QK~,!>~5AA~((IDLE^,&oo~,!?~(BZ4~6!a~*Bd^+,nF\t~)09~&!K\t\t20~.*mparm~N5'~",
    "/l&values[~/%7]^A%JMeconet/ec~BQ!^&%]<_EC~/I<~+!;~aQ(ec_^-*fP~/O[t^'(QD~2!>net~/1A~):Kec~=Qvec^6%Nf^+.Jd~-!;cb~4!9~*nE~.&F ~3)+~%77^&,8.~0q(E^&&<+^'%Qo^',nFD~,R",
    "'~'!FTRANSMI^)&z1^.&a[~1!JOK^,)*)~0!BNOT^',YkING~+M8~1!LET^'%BK3~;!s_C~%D)4~9!GLINE_JAMMED~+N>~4%hPRESENT\t6^?-&V^'&2d~?,AI^)&40^4-&M~'!<^<-&O^3%!j^,&44^2%Cp^70",
    "vg~&x=~%!_^'1Qk^-(oJ^*&4N^:-6[~0!j^*,4-~9!l^-,0K^9)mr~3!f~'!/^31Z9asc^9,6g~6!i^2,6-as^'-2[\t~E'&^-);E~)'&hos^)0-D^&.>=^,0D'~:%'~8',~*%,host~3&x~*%2~_%,lin^1,;Ql",
    "in~<%%^,)Ie~/%]^80z.^=,BE~),Mcmp6~A[S~%-XICMP6~4-t~'!<~.aBint^5%:|^();,^P%/4~)%F~&%<^',*:1~6!;~'Qr~+30~-!BPA^-&Ck~3!bOTHER^-+n.~0!g^&+h=^*%9g~%'r^,.Nt^.%iK~)!B[",
    "8~0IX~&!?^-&/[^(%QZ  ~'!B^.%)q~.!?^(,RS^+%)q~*!?ksu~'G>^3.mJ~%%n~'!Nu^&%H&32[1^-.mP~.!C16[2]^+,|e~/!C8^-.mY~&!>dataun~09.~*!?32~*&*~&!P.~/%e~3!Y16~>!Y^+&')~*!I8",
    " ~>!Y8~/!Xp^)%Rv~,&)[0]~/!Lmtu ~E!Lid ~1!L16~2!Lseq~4!L1~1%Haxdelay~2!w~/,:DST_UNREACH~(%R~%!!~0-O~'=pTOO_BIG~*!L~0-ZTIME_EXCEEDED~+!w~0-bPARAM_PROB~-%G^-,*x~%!",
    "MINFOMSG~%zt^&(ON~0!FECHO^(&;7~+&<^,+r:~,!LPLY~-&h^++JnMLD~'?:ER_QUER~+!N1^++K*~-!LREPOR~*%I1~+wR~/!LDUCTION~(!L~.'fV6_EXT~-&I~%5g1^,+n[~1!LPLY~'!J1~;)Z_NO~%yh~",
    "%%I0~;!LADMIN~)*-~;!MBEYONDSCOPE~1*.~.!x^),50~1*.~.%t~*'p~1*.~+++~&CVIT~5&F~,!LREASSEMBLY~3&F~%+UPROB_^&(!J~(%u0~9!LNEXT~*!P1~9!L^&,'i~*-M~66dWILLPASS(^&(DL~&6V",
    "p^).(:~(!3->~+6X^'*9_>> 5]) & (1U << (~'!;& 31))^(/8C~:%G~%8W~w%H!~;%H~%o7~a&m= ~~~6%H~;%C~c&i|=  ~R%DPASSALL(~,%?memset ~(!7, 0,^1.js~+<h^,&cb~6&P~C%0xFF~K%3ND",
    "^(,)LSOLICI~+4' 1^+'FP~*!LADVE~+3)~%!L4~,!LNEIGHBO~2!y^,/K/~,!L~0!y1^++Z)ND^*)yD~0!!137~)?wnd~&dVr_solicit~0o2~)AA ~%!Ps^&*Ak~/=p~&!=type~/%:~)!W.~*An~/!Zcod~A!",
    "Z^,&hB~(!Zksum~?!Zksum~/![^(08U~;![~*=_~2'Ladver~A'Ka^+*E:~)Cc~'!=reachable~9!D^*%ta~3(7a~8(7a~<(7a~8(7a~<(7a~8(7a~=(7a_curhoplimit~8![~&F*~+BH~&!Eflag~/(|~6!a~",
    "+BZND_RA^&-!5MANAG~)A3^,'2L~,!J~%K5~)&M^-&8u~+!JHOME_AGEN^'&-?^+%L&~'))~&*=lif~%pO~8&'~&Db~+*yneighbo~H.Lns~*+!^0%R2~(!Etarge~5*]n~8.sn~<.sn~8.sn~<.sn~8.sn~=.sn",
    "~8.sn~B.s~)'u~E.una~A'ta~<'t~8.Un~<.Un~8.Un~<.Un~8.Un~=.Un~8-rna~5't#if~%!F^=(J-~,7a~'-I~&8e~*-r^1%Ln~+!P~'8_~'.r^3%Ly~+!POVERRIDE~(%'^*%M,^&)b!~C%Z^1&5A~;%Z^1&",
    "65~;%Z^*&7,~'[m~+6Se^&*vs~?6Nd~?+Trd~)+T~<!Hds~66Rd~86Rd~<6Rd~86Rd~<6Rd~86Rd~=6Rd~8:id~A/qopt~6[6~'!?~3[4~'!=^+*[r~,)jOPT^(,VfLIN~%sJ~,aH~'!FTARGET~+!F2~0!F^&-8",
    "4~%SyRMATION\t3~0!H~(AzED~'M7\t4~0!GMTU\t^,%B[~(!aT~%C+^&%RpVAL^,,PJ~'!G~*86^'-i?8~0'c^&%JO_^-,TY~*_,~(!Ii~5b(~*!B^-%gX~0!A~'%2~=!H~.1|~0?B~*!Lvali^&05x~:!Hpref",
    "erre~A!L~(%=2~7..~0&=;~6*UPI~'0H^(%cY~.1>~,!GAUTO\t~0=>~,!ER~%*x~%=:~/)'~&-5~:(zrh~<(zrh^3%lv~+!A~('21~7'V~+!G2~)-d~.%tmtu~:%qmtu~<%rmtu~;%smtu~A*Fmtu^+.Hb~(%mm",
    "l~.'_~24a ~%!H~)!4~84?~&!K^,%22~()?ml~.4=~-!v~44:ml~.48~4!U~-45~%!U~+43~5!U~-40mld~+fv~6!V~2h*ml~.4h~;!Z1~1gh~'QwRENUMBERIN~%gA138~/oI~'Fer^-+<m~4(nrr~.M%~(oV~(",
    "!!rr_segn~)o?~6!G^+%tV~,p*~+!F~('P~1Ms~,!I~,+U~,*(^')jt\t\t~&&)~4)rrr~.:.~-!N~-)krr~.9z~.!N~-)d~%'!qn~)!P~-!O~+9e~0)!R~%1ES_T~-jL~0Lc~/!QREQRESUL~)!V~-2L~/!QFOR",
    "CEAP~*k1~-Lq~/!QSPECSITE~+%W1~9!QPREVDON~,!Q0~*+5rr_pco_match~5va~)()pm~/vH~4!F~38>~.!Eordinal~>!I~%%a~B!rmin~C!Hax~33W~.!H~.3Z~42Pr^)-Q_^1%eZRPM_PCO_AD~,r6~,ic",
    "~(!F^&'fa~*!F2~1!FSET^&._T~'!F3~0)%use~?(|u_use~?'=u_keep~B!Ira^+&0s~9!H~/0_~107pu_vl~4==~.!Hp~D!H^2&ps~/)!u~7=b~)-APCOUSE_RA~&-J~&=k~8.G~/!QAUTO ~(.G^C(wC^*,ad",
    "~/!w~&!uDECRVLTIME~-OB~C!YP~(!Y~*OK^7-yR^0/IA~M%c~P%Z~0Np~&65ult~-,1~27,~17P~27ur~D0i~%7ytched^2&2)~/!Lifi~</srr~0*r~S)k~&6/~''QO^)%&8^00|M~6!TFORBIDDEN~&!T1~Z)",
    "a~:%V2~5+A~:%V100^1+Qe~'D4adv^&.FWval~:Ej~,!J~<Es~-!L~:F!~-!K~?F-~-!Pival^0%T3~(Rgome_agent~?O+~/!M~<&K~0!O~:&N~0!N~2&Q~=!S~&Nience~H!U~(i&^A%O:^/%EN^;%<'^*%;gF",
    "^)%G!~)45~4!B\t1^F&HE^-,b1^;'WO^=1GF~5!!^.&U/^*'Z/^2&UJ^&'KK^6&xD~(*w\t^'%Ahrp^*2Th\t^&'Gi e~'hA^)%95arp^0'Es~.!?pa[4~0!8t~;!Ut~'!U^+(:]arp_hrd\t~&%M.^&'I&~-!Bp",
    "ro~+!Bpro~.!cln~,!cln~.!c~-!Bp~/!Bop~+!Aop~((E~'*9^('R)P_^,-8I(ip^&%Jnen^(+K>\t~-5x~1!!~B!E  \\`@ \\`\t(~'!|[0]^'+ht;~-!:1~'!:0~.!:2~&!:5e~.!:3]^))b%^&/%6~&&5^)",
    "/%87f~.!T4~8!T2]~.!M5~8!M3~%!M$^U%HEf_fddi^G%HGF_FDDI^50nO~(!>^Z&bL~)/:~&%b>^</zQfddi^''da ^,'da~%!;fc;~0!6^&'dr~%%tK^2'du~%!Gs~3!G^,+k<~?'otr~I'mTR~7'kT^S&f9~+",
    "-gTR~%&1^+'kr TR_HLEN \t^0,).trh_hdr^-,+]~(!=llc^+*AzAC\t^.'9jLLC^&'a< ~&c2~+/<^'2AU_SAP \t0xA^*,YkUI_CM~(LT^''8s`~.%]^.'j,a~-)C ~.)R daddr[~'&p~-)J s~5!>~%9)rc",
    "f~.!3seg[8^0-u8rllc~.%]dsap~.%3~0!4ll~.%sprotid[3^3'kl~&<P~.%B_statistics^.+f?long rx^''9X~%FS~.!?t~;!?rx_byte~6!Z~7!=rx^&1!M~6!Y~8!>rx_dropp~&>(~1![~9!?multica",
    "^'.3)~.![^'%0'_collis^)*>3~0!Lline~9%k~%Bxnal~9!Eburst~9!BA_C~9!?abort_delimite~4!Flost_fram~5(;ecv_congest^*&!x~.!H~%!c_copied~9%Xfrequency~:)7oken~9!Bdummy1;^",
    "/.,_R_RII \t^.(?9~%!:^&&O|_BIT ~6!B^&.G:SK \t0x1^+0S-~(!D^*3-N^'&PE~1!hIMITED~+!M0xC~3!L~%1g2K~%%W2~:%6~)%_~0!kMAXRIF~%3V^&(J8~97Ttrn~12,trn_~.2/trn~/7dtrn~'7c~",
    "425trn~'7[~528trn_~02<~%!7~,2A~G8/gmp~G8.GMP~58-~%!; ^:+!N~8H6~3(&^9%cC~5G3~>!!~(TUgmp~-<Higmp_^,-6T~)!8^,.6i~%(%~&!9^(%a0~)UR~&UQ~%!A^'04:~-]BGMP_MIN~%:Y\t8~-E",
    "_~&!?^)-?p^)%Ud^.&R-~%!JV1~,!M^&%Ue^.&R6~&!K2~6!K6~1!K^,-PG\t0x17~/%jDVMRP~%/_^,-j,GMP^&1!9\t0x^,-j1GMP_TRACE~&!=5~0&c~%!?_RES~&%<e~4!C~&!bf~/!>RDISC_ADV~%!C30~",
    "0%)AX_HOST~'&k^'.jb10~0(9TIMER_^&.N3^)'(n~.&pELAYING~''l\t~/(UIDL^(-bc\t~/(ILAZY~(!>~/'TSLEEP~+%!~/'[AWAKEN~+!D5~2%kv1~'va\t~0%fv2~)!=2`~3&N~%'?~0+6\t~5+M~>!_~'",
    "*w~9+d~3!eNEW~9!i2~F!i~&,!MESSAGE\t\t~3,;^6')Q~?2on_systm^G&!5IN_SYSTM^5%r?~)!?~QH-~62J^10z4~%6-rt;^21=0n_long~5!<~&ZE^M1ANp~HZG^1'Ur~)!: ^H'(]~,6'~G5l^,+Odtamp",
    "~1be~1rOptr;^E)gb^2&>,~%kc:4^3&>Goverflow^&)hp^B.kx~=!g~:%G^(+'I~%At\t\"Please fix^0.jd\"^,'':~)*&data[9^1%vW^)(*5~V';ihl~5&0version~Y'8~+!f~8%C~['5~%?zo^0%,ato",
    "^4'&ti~0h4frag_^),B1~)!vt~/q]^.'Ppu^/.o(~-(osa^2/Ya^'3;.^4,FT~Ff5~/>rp~])dp_~7)fip_v^B)qm~<)h~(!h~:%D~3)8ip^3'1<^''.cp_^2&jz~)!>id~8!=~%)N~(EKIP_RF ~.JL\tIP_DF~",
    "'z;~,!8MF ^.''6\tIP_OFF~%J!0x1ff~2&8~0*Vip_p~8%m^)&(N~0DCp_src,^+-x.^.&VPip_~:3Ji^+.XL~.!9~13gipt_~[3kipt_flg~7)ft_oflw~c*p~*!l~<%N~C3F^0(gPIP^('jz4~-)sAX^'-5)^",
    "'.qf~-AH\t^&'!OECN^*'d=3~2!A(x)\t\t((x^*'%,~(!V)~3!qNOT_^''/p0~3!CECT1\t^.)(U~-!A0^/'yr~*!A^&&z103~6&ADSCP~)&Bfc~3!B~2&C~)!X)~4!tAF1~%&%^+);?~.!B2~'Hj~6!B3~%!B~",
    "7!c2~%%)4~8!B~%%)5~7%)2~%%)5~7!c3~%%)6~8!B~%%)7~7%)3~%%)7~7!c4~%%)8~8!B~%%)9~7%)4~%%)9~5!cEF\t\t0xb8~8)UVA~%!D0~8!D^&''304~5*C^('*N~&*De0~4!C(^&+0-\t\t(~'!-~)*M",
    "~*!e)~5%'CS0~%Nw00~7!C1\t~.Zb~/!C2\t^.+H1~/!C3~%!C6~8!C4~/_h~/!C5~%!Ca~8!C6~%!Cc~8!C7\t~''Y~5!D^).gv~/'5~4(W^('1m~%RoE~2!A^A'2L~.!ULOW~&Rt~-oq~(!uHROUGHPUT^.(.D",
    "~&!BRELIABILITY^.(/!~)%)COST~51cMIN~&!?~-!O~3&lPRE^('tK~1+Z~3!O~'&|~-+itos)~4%%NET^)'/k~/)+~4!S^&38p~*!X~/*)~4!WCRITIC_E^&1SF~-*|~4!SFLASH^(%h>~0+w~9!U~0%*3~5&8",
    "MMEDIA^&1W|~--e~4!RPRIORITY~0!Q1~4!Q^&1SVE~6,>~*!TOPT_COPY~1.>~%!<~*15~//'OPT_^&%Rx^,)</~1%&IED(o~%-!o~&,z~(%>)~4%9~3!O~52!~*%M~2!V~+%h)~2%d^)'6v0~0&I^(1K!1~12U",
    "^&)THBMEAS~12ROPT_MEASUREM^'%zp   ~-!X~7%72~'3*~/!C^(/:6~.!8ND\t~*!D~0'0^'/:R~/!8OP\t~*!E~0%5RR^+%i!~'!7TS\t\t~-::^./9&~)!J~/!F^)-aD\t130~2!?\t~/!K~/!FLSRR\t\t^",
    "+&Aj~(!SATID\t\t^+&1&~(!<I~)'2~%!H~0!C~'!w~0&YRA\t\t148~3-+OPTVA~3(HO~%ju~0%kOFFS^--tM~(*/INOFF^&+gp~'!<MAX_~%!A~%!p^,%)0~)'v_T^'&Pv0~4!>ANDADDR~1%TT~%/lSPEC\t3",
    "~1%!~%(;_UN~%-l^'(/f~5!GCONFID\t0xf^+&5g~-!FEFTO~%?r9a~5!DMMMM\t0xbc4d~5!DRESTR\t0xaf13~5!ESECRET\t0xd788~5!FTOP~)!I6bc~-i2\tMAXTT^.'G'\tIPDEFTTL\t6~,5(FRAG~%!8",
    "~-:3TLDEC^+./Q~%JHSS\t\t576~OcO^H&Yz^7&Yx^I&Yv~/c7~)PZ^/&Vs^53rz~'!Jctl`\t~%!;~-Mzip6_un1_flow;`~*!A~&Z(~'!A^&%WP\t~,Q9~)!?nxt~8!>hlim~%!?$~(!6^+%?k~&!52_v~&|8 ",
    " ~(!Kctlun^6%Ojip6^:'b|ip6~,T0~((Aip6_vfc  ~*%,.~+%L~-!Lflow~2!L1.~,'M~-!Uplen~<!Uplen~-!Unxt ~<!U^,*6N~%)8lim~<!Thlim~.!Uops~B!U~-*qext~1WK ip6e~&)[~2!:~'WN^00",
    "?_hbh~5!oh~6!oh^-&'B~,!pd^-(My~+!Wd~6!qd~9!qrt^5%xEip6r~6!rr~2Z.~&!:^3%PW~%!;segleft~:%N0~6%O0~7%P0~7%Q0~8%R0~*%S~3!?^2%Qh~,!_lmap[3];^81Bu6r0~%!.[^3.Z3p6_frag~",
    "2&Z ip6f~3&Z~&!;^8%SN~%!Aofflg~/iE~&!=id^'/G,^P%[jP6F_O^&45s^('N?0xfff8~/!H~(B9^)&_q0006~/!HMORE_^).k|^+%[v^-0jd~6%B8ff~B%B6^-%[n~6%B^4%[bip6_op~6-eo~7*fo~-/M^,",
    "%&qP6~%=XYPE~,G]0xc^,1a-~*!I^&(jf~,GP~-!B^'1w|~-G6~-!EFORCEICMP~-K.~-!G~'!Bc~6!BMUTABLE~&Hd~1&DPAD1\t0~3!9N^..Hq~%!:JUMBO~%VA2~0!>NSAP_^'&-l^+*BX~(%YUNNEL^&%:1~",
    "-T-~(!E^-.]d0x05~1)=_jumbo~6)Dj~8)Ej~60doj~&!u_len[4^0'Ef~,&l_^&454~1%_nsap~6%]n~8%]n~7%]n_src~%!x~9!Edst~+!E~44-opt_tunnel~6%it~8%it~7%Et_encap_limit;~7%B^&&*y",
    "~6%B~86No~77)or^'/Ez2^-,:W~K2T~&*l_MLD~)I-~2!BRSVP^12mB~*!CAN^)(8E~12B~N%/1~6!C~&%/2~+2/~?G8_icm^K%-lICM^9%-q~&!? ^'&n&^[%1%^+&0_^1%Dz^/%?%^1%>xche^)%>v^.(;A^)'",
    "=c^*0%x~(!Z\t~(z>~+!6s^&%Jc~'+6$ ech^/(*:\t^3(2_~6%.^02tk~1%<^)(/V$ fra~%:n$ un^/%AvCMP_ECHO^')]<^.&!)_DE^*&q>^/')M^(&F4QUENCH^,%;RCMP^)&E=^-.sY~(%;^,/UB~%!8^-&",
    "y/^-//%CMP^&&pMETERPROB^-//-~(!c~'X513~7!>~&&Y1~/%wINF^*&ve15~5!A~%'<^,%CnCMP^)3|-^-.sV~+!<~'%>~*&dNR~&,LTYPES^()u(~-!aNE~*(;~/(XHO~+(X~0'CRO~*!?~/'A^&2/z~6);FR",
    "AG_N~&(C~/'=S^*'uJ5~4%wKNOWN\t6~5%w~&!?7~3!?^'.rkD~0*%NET_ANO^-.xO~)!Y~%!<^/&5j~('R_TOS~1*V~('S~&!A~0'7KT^'&p8ED~1*W~%i-VIOL^&&Mq~0*W~&l5UTOFF~,*V~()X~((9\t15~0",
    ")Y~%-8^'2.5~4!=^&2-j1~7!YTOS~0)W~*![TOS~,]E~'.;XC_~%YV0~2!;~%YGIME\t1~2!Z^'*+>^,.MK~-!=~&,X43~2!BC^&*+gL^'%G;1~7!FNO_IF\t2~:!B~%C:_ENT\t~9%4ULT_IFS\t4~8&;~%%y_A",
    "CTIVE^2/cV~3!OIPV4\t^*/dO~>!N6\t~4&ZECHO_^*)f0~?!G^(/l(~<!H~%E3~/',AFI_IP\t~1%R~&!;6\t^&%L;^R%9o^C(I.^,%FY>^-%4Kcmp_ra^.)XW~&_>ra^-/n,~)!8^,&)'^/';Y~-;)~&%+~0;/",
    "~&!9~1;5~&!9~6;7^.'Puih_p^)00g^0%7<h_gwa^04u&ih_idseq~5:r icd_~2<)~%!:s^(),0$~)!k~/Rcih_void^01pch_p^&&Rq~4%?pm~'!X~3!<next~+<6~'!p~/Ujh_rtradv~1%/~%d,rt_nu^&/s",
    "Ds;~3!Aw^()3?~,%Krt^-&.)~'%L~&%6~&=g~%(xhun~)KW\t~%!5pptr\t~(!?.~'(s~.!G~&(i~-!I~&!6~.!Kid\t~-!H~%(C.~&(u~.!Nseq~7!Nseq~.!Ovoid~-!Pvo~0!upm~1!Ipmtu.~()'~.!R~'(x",
    "~6!S~'!A~/!V~((d~-!X~&(..~-)-~.!]wpa~8!Vwpa~.!P~();~8!U~(!D~IFK~&,cts_o~**=~/!=r~9!=t~-*ud_ts~9FX~)O. idi_ip~',p~%![i^/4k5~+24 id_~(+u~,_Q id_^5&IAid^'-ah]~+,Qd",
    "~1,Qo~*'odun.~%&7.~)'.~.!Pr~8!Pr~2!Pt~8!Pt~2!Pip\t~-!Nip.~&'D~/%Oadv~-!L~%0E~-!G^&4b]~+!G^&4bW~,!G^&4_B~+!Gdata^,5*F~*ueC^*%ja8~.!9TSLEN\t(8 + 3^+1xT^&%Zj^*&)'~",
    "'!jASKLEN~+B|~&!;ADVLENMI~'!p^12&s) + 8)~*Q-IP_VHL~4!k(p)~&!k((^('95~%'pp_hl~&=:~&!r^.&wo~6!i~&%5_HL~1!svhl)~/!u^),tB~,!y~)DM3~.!;~&N'~0N&~&!?~&_T^&'6h~*GO~,!?^",
    "'&y9~+GS~'(bIM~%N/^-'pv~*N.~%N*~1(OT~1N(~,!;~0N%~&!?IREQ^-*F]~)!9~1Mu~*)|~&!X7~4!<~&!X8~0+HAXTYPE~'Ms~4(+~%H;~'jE 0~6!G~%HE~(!H1~6!H^)/P%~(!L2~7!LOR~*!s3~8%fEDF",
    "RAG~)!L4~6!LSRC^'3FL~&!!5~9&a~(NE~(!N6~:&h~/!O7~6!N~)O!~(!y8~:%LPROHIB~)!N9~;%L~&!O~)(>~7(gTOS~,)511~9!K~.)9~7(j^('_R~+%L13~=%xECEDEN^&/[A1~7(t~*!J~'P9  ~,Ov\t~",
    "-Y3~%+a0~7!?^(3Ep~5!A~''32~:!C~%!f3~0%J~(/t_INTRANS\t~70<^&'P!~,P2~/0C_OPTABSENT^+'PD\t~)YQ^+-f|\\`\t^('Iu==~/_6 || ~3!? \\`\t~3!>~,2o~9!C~'2r~7!j~&2'~9!<~&%h~6",
    "!bIREQ~7!:~<![~'2M~9!=PLY~+6B^K%3Lud^S)M8~2iPUD~6iL~%!; ~SiH~)O1ud~)i9^60jU~Bhj u^)0jT~2!<d~8!<u~)p+~/!q^(%er$~Bi,^)0fL~/!:^&0fQ~/!8~4%>^+%mm$~'qG^-&7pUD^'1!<1~",
    "-!6^&3-,1^,(diUDP_NO^&/]u6_TX 101~8!BRX 1^+(q!~%!BSE^&3!L1^+)-OUDP_GR~%b|4~/%h~%%R_ESPIN~&%+N_IKE 1~;!I~+X4~*!AL2T~'!B3~3!BGTP0^,(Qd~-!=1U^-/n8SOL_UD^(/h;~&54^;",
    "*8<ipx/ipx~CrXPX_IPX~1-*~(!:^Z&OE^B-75~,&UIPX~%<z5^++1yIPX~%kQ~1=k~%!=NOD^&*1I6~-!:MTU^'%AH^0(0kipx^6(J&ipx^-(J%~*-,ipx^62WQpx^(5eM;~3Yv~&!Dode[~,&!]~.MW~%!I~+|",
    "K~2!izero^4%-e~%!Aspecial\t~)%w~.!C^&0Go\t~)!o~-'LDLTITF~,h<PX_CR~%!81^1+oGipx^'(At~%!Rit~5]s^&&H2~9'?~)!C^''-_~;'i~,!J~5'o$`~4%f;~5&4^*16F~]&8~)%j^()de6]~9!Fli",
    "nk~')W~,(1^&*7t^&+Be0~3!=SNAP~-gK~)!=8022^-(&O~)!=ETHERII~,hE~,!Z^-(ay~*!=TR~&!z5~7&=~'+0~.&:SPECIAL~&&<~.&;PRIMARY~0&8^)4w9\t2~7%8~<)_~4)6~6)dconfi^&.gB~8ghpxc",
    "fg_auto_select_primary;~?!Rcreate~*%_s~*%t~+%G~'/%~4-a~n-W~,(.~%C(_NO~'C1\t0~U-x~N,f^(&&yx^)1)g~,%bT~',B8~0!:~&,>4~0!:BLUEBOOK~0,Z^(30zD\t\t1^/%MWSIOCAIPXITFC^5",
    "(d2)~1!OPRISL~4!O^2)MIIPXCFGDATA~6!S2~1!SNCPCONN~6!S3^I*AUiucv/iucv~C;<UCV_~%!(~0;>~*!<^W(HM^6%1q~*9xucv^>2pRucv^1(Gl~%*]\t~&!?^3(Gsin~(!A~*rD^&-/>~&!9nodeid^'(",
    "43~.!>user_~7!?name^+(4l~.(W~,=]UCV~(=D27^,(rWSO_IPRMDATA_MSG^0)60SO_MSG^(%Al^.)mh~%!>SIZ^))5R~+%%CM~&(zTRGCL^'%bD^;)%m^&&dc/^F)zfNET^'(/g^3)zm~2!A\t1~2)fll^<*&",
    "Ysll~.?h~6!G^.&:E~(!9^6)%v~.!aha~9?Mll_pkt~<!Cha^8)&Bll~%+4~+*;~*(h~('5^&%y'~0!:^*)3<1~0!>^*)4!2~0!>OTHER~'W!~0!>UTGOING~,3C~'!>^)*9K^,/bM~&!>FAS^'/796~3&7^009p",
    "~1&&^109s~*Y3^*(Q=V_^&+>N~,i*~(!BX_R~%&/~*%m~(!>STATISTIC^-*bY~'!ACOPY_THRESH^,%q%~(&2UX~&4K~+n,~('NRIGDEV\t^,([|~'!>^(&60^-(]!~()E^&5[g~-j)~)&_SERVE\t~-j*~'!?T",
    "~)&[1~1&zLOSS\t^,0GI~)%XN~&%A\t~-j2~*!y^,%<5~1'A~,!A~1'?FANOUT\t^,/e3~+%'HAS^&+=i1~1'CQDISC_BY^'(FI~1'GROLLOVER~%)4^-/eW~.%K^&1-0^+/ef~(!CIGNORE~+,H23~8'>_SZ\t\t",
    "2^*(G4~&2M^*3!Z~(0N^.3'<~50Mmr~4Lv~-!D~80-^*3(a~+0/~0/P^+2,7~204MR^)5qR~205R^*5q02~3!A^'0+%\t3~:5rrom~'!*^A%pMROM~(!*^.%pO~,!<~.<:^.)11^0)/i^((k[5^,),I~'!pT1~+&",
    "m~(!72~+&d~(%H2~+2q~'!7^'(ha~*-D~(!g4~+TV~'!7IDLE\t7~1%O^2).8~)&gIG~%cG0~1!=O^''s3~*8lnr~'H!^/(i?in^*%MR^/(iNcalls^'/JY^*(pY~6FXint quality~+!Smnemonic^')'I~/%/",
    "^'(!Bu^4(uDobs_^8(w3^*)&t^3(xi^&)%zs^9(|[~((]SIOCNR^))/H~2ES+^+3JD~&!QS~;!Q1~0!QDECOBS^>)2,~'!ORTCTL^>)2*~'!N^:)/r4)`~,)n^5(o2~:),~J(O^*&Ol~-!9^&4+1~3!=ack_^,'c",
    "8~,!?busy~9!Atries~3!;^5)aBin~%46^3%t?nr^4))H~/O;^8)C|^1&T8^C)(x^<'E<rose/rose^D*kbROSE_~%!(~02n~)!;~2fJ^4)k<~>3-ROS~)eg26^/&qv~%%6MTU\t251~0!9~(.3\t~*fd\t~%!=D",
    "EF^,&rE~&!8^-)?U~'!6^,)?.~'!6~,ZW~&!6~%3J5~.!7QBITINCL~+AU~&'8OLD~%D(7~./pRSGCAUSE~6QF~//pRSS~;!Q~//pRSL2CALL~AS&~(%)~N!R^'1oW~8SS~.!QCLRR~7!P4~0!PG~<%W5~1!RFAC",
    "ILITIES~5!U6)~0*,TE~%EUINAT^')f3~.!E^'&>!^'*<v0~/*WIN^&*xO~'%GY^.&WO~&!h^&5cZ^,1qq0x0~/*ROUT_OF^&%jH\t0x09~.!C^&+.|_BARR~&%xB~/%3OT_OBTAIN^'%sY0D~.!EREMOTE_PROC",
    "EDURE^-''|~&!G^'0_k~,!F~/&FSHIP_^&%(g\t0x39^2)=c^)0=sro^'6,3^&4[D~*!3^6)=Zros^&/-9~-pS~%!Y~*Qj~,!k~'!A~(W1~-:C~&!>^()=r~%QR~%!5~*:w~,!S\t~&!Adigi^-%P9^.)>.~|%t;",
    "^06JM~<&% ~*&%s[~.2g]~-&6~%!K~-A1@~0%q~)(b~6H<^'%EK~-'P~-?G~3AR~-7x\t~7&>~=?:~0&>caus~-&>~.%2~%!C~2%Jdiagnostic~2!yfaciliti^*)Bs~1'B^+)?T,  ^.)8r^4)A(call~)!M~1",
    ")T~&X*~&!N~&':,~&!N~8)f~&!O~7)g^4):f~9!O~-+/ra^&1?G~-&jfail~6&X~%!=~&&I~9<j~(]As^&*,=d^L+G1^(%>pS~'kO^,'9y~2!?~<=)`~-<H\tR^*&l+~+JKetinfo^+']M^***[^(&ph\tint\tr",
    "ip^))|K~,*iip^,,nF~&+=rip^&*5Y~3!;vers~5!<res1^'(v(^)+GU~'%f~(%x^&62Ds^&(vq^&+F0ru_tracefile~&!;$ rip^,%P(rip~%![\t~%!;.~'!l~-!C~)!j~*!H~)!6`^./xt\tRIPCMD^)%sA~",
    ",?k~(!=SPONS^-.8G~'!>TRACEON~-?z~,!=^/&Mf~'!?MAX~%_g^&%f(~&!8^(+TEripcmds[~*!O] =`  @ \"#0^++Sk~&!.~&%l\", \"~'%Z~*!.FF\"^4&rkHOPC^&(?9IN^&&Re~*BK^)&rp^.+Nj~+,X",
    "~'!M^&':9RATE\t\t^+';*\tSUPPLY^+(Al^+&SmM^'1prTIM~-'uMAX~+!;^++bKEXPIR^&.S7\t\t1~*mP\tGARBAG~(!=240~C/;who~X/:WHO~8/9~&!>^;%2h`~)LD\toutmp^).%'out_lin~&q&~*!6~)",
    "q9\t^)1WYu^&6)]~,/*\twhod~)!rwd~(.a~(!2~&VA~)!2pad~&.eint\twd_send~&!z~(!5recv~'!5~(!Y^()0p[3~,!bloadav^&+SF~'!6boo^'%_(\t~*%qent~,/y~&&|we_utmp;`\t~&!ce_idle~%",
    "/kwd_we[1024 /^0%W+~&!v)^.3Vc\tWHOD~*33~,!9^&&;w^&)?B^.*Axpath^;*>1~**Ztalk~W*ZTALK~7*Z~'!>^).H(~/!r^e+>u^</Cao^0*sF^:-(N~&5O~55g~'+/~.!8answer~1!:pad^,*bYid_^&",
    ".3E~(*=~)8'a^,6KM~+!;ct~(;E~)-;pid~*6?NAME^&0_p12~',:l~&-s~)!=~).6r~2!<~)2UTY~'!m6~)!Qtty[~(!;~%HzCTL_MSG;~|'f~='f\t~A'f~&%r~(6F~+-STALK_~+<g~)V4^&'G=INVIT^,%4l",
    "LOOK_U~-uw^(,sW~*htANNOUNCE^-&(o^(60.~+!tNOT_HER^,&!Q^(&.Q~*!tMACHINE^)&.3~+xiERMISSION_DENIED^+1Km~'!R~);H~*PgBA~)0H6~,!8^&(W<7~,!6CTL~%!9^.'THMAX_LIFE\t^+&mf ",
    "RIN^&0*e~&9)~?0rim~LCk~-0TIM~8Cj~'!>^J+LWtime~)D&~)*:SP~13l ANYADDR \tNULL~,'.HOSTNAMELEN\t6~*tOts~3Clts^(&&G~3!<~0->^'+hbs^'2?w~1Cj~%g&val tspu~'9:^(+hZspu_hop",
    "cnt~%6utsp_u~'/o~%!0~%/q~.&8~/6v~%&&im~&!,u.~)%3~-!E~&%2~,!G~&!5~0'z^&*,:^,,=%SP_ADJ~'>M~.!:CK\t~,?<TSP^'6j6REQ~,D5~*!<~%!W4~-!<SE~)?q~2!TUP^,%'r~%!SLAVEUP~,-*T",
    "SP_ELEC~%ZY^+%'h~&%w~&aE9~-!9^&-*(^-%'[TSP_CONFLICT^-%'Y~&!T^&*E!^,%'UTSP_QUIT^-%'NTSP_D~%D914~1!8^0%mT~(!;~%'<1~.&f~)H+17~3!;FF^-%'5~%'XSI~%%G9~2!9~%%H2~.&j^&,",
    "*J21~0(b~&&822~4!;~&!o~.&lLOOP^&%&U~+!9TYP^'(V'\t\t25^*,bT~&!=~(Iltsptype[~-!U~)Io^'+zb~'+S~%!.CK\", \"~)+9~*!0~'!=~'*y~*!;UP\",`  \"~'*c^&,9O~&*T~&!xCEP~'JwFU~",
    "&Ju~(*.~'K5OLV~%!:QUIT~&!sDA^&,Nx~''8~(!.~'%S~4K_, \"~%([~)!,~%![`  \"T~'LK~'(3~+!.~'%)LOOP~.LI~459resolv^S+4r~-C;~&&l^-.Yt~*!6^G'mz^O.Z-o^G*_l^..]Z~7Cbr~%]%ate",
    "^/2cS ~%h5^&-5[PARTS^+,5[ RES^)2[N~*1_~%!:MAXNDOTS~,/6~(!<RE^&%n=~+Of~,!>Y~0!sDFL~'!;2~0!T~&3/^(2=*~'!?nsaddr\t~&!*^)6ED~*)0~(:6_RES\t19991006~2HjATH_RESCON^*+I",
    "F~-!9~(ui^&6PZ~'*s^'6Q[^/(Lres_sym^'.>d\t^(1w6~&87*\t^&0A6~(!1huma^'5Me~.WO~%&tINI^5+8*~%'Q^*+4;0^-*pLRES_AAONLY^=59O~+!K^35FM~&!!4~-%!USEVC^4+8[RES^(%Tw~B%C~(!",
    "L~8%D1~.*SIGNTC^4+95RES_RECURSE^4+95~&'JFNAMES^4+98RES_STAY^,+9y^-*Z<ES_DNSRCH~(!B^-*ZAES_NOALIAS~)%.^.*YdES_RO^**_30^-'Vk~&!fCHECKNAME~B']~,!P~6'c8~0%.KEEPTSIG",
    "~B%+~)!M~5%(^-*[5~%%(BLAST~B%%~&!J~5!z^/*[k~&+/_EDNS0^5*[JES_SNGL^'+Mr^1*Z!~*!CRE^'*[n4^0*Vd~'%3^&.,)^5*Z1~%(8TLD^&&O:^+*Z0~/!GRELOAD ^)(Sr~1!mTRUSTA^)).r4~3!GN",
    "OAAAA ~(!G8~4%9^('J.(~+,n|~,,X|~*,!)~10nPR^&*e?S~80sPRF^++R7~40xPRF^&'A'^+)0f~/0C~%!GMD~:0EF_QU~+.Z~//ePRF_ANS~8/g~%!CUTH~8/h~%!DDD~8/gPRF_HEAD1~8/h~(!E2~3/k~)!",
    "ETTL^*+Hd4~7!iX~(!E8~3!E~)+(~40VPRF^'&cG^3+G6~(!E~+6?^'*iH^/%Z(^.)u7__~);y^'/6+~&!0^)20)^;462^-(K%~(9Eres (~-!q^,)RXfp_nquery\t\t__~)!0~,!C~,!B~.!Ahostalias\t\t",
    "^&)s.~%!0~)!C~)!b\t__~0!bres_close\t\t~&%m~%!0~-!Cinit~(!Binit~.!Asourserver~)!H~*!6^:.yh~'C/^,.yg~;!A_MSG(^&.m-^0.z5~1!P^;.z4~E%1^?7XI~'%U^(&.Z~,*n^&-q4~)):^>.",
    ",vFILE^0-m&~1%h;~*!|~>!z~H!u^,)z=\t~)*T^.)zV~?!l_MSG (\"use^-5Ty^+7[U~&&.~>&-~H&w~)+k^12:Wint~&!C^*3>v~5!B~*+f^75SC_in~D%b~)!xmk~'&S~%)E^1.)d^/.!L~<*,^=.2B ~5!Y",
    "~4&a~-(9~1%Z~6!n^&&1c~7!s^C-w2~/&i\t~J&'search~k&(s^+5TS~6(5~E!v^5%lgb64_ntop\t\t__~(!/~-!Apton~(!Apto^*'DDdn^&%Ko_label~%4v~/!6~,5dresstat~'5f~'!1~)!Eloc_a~'%8",
    "~(!/~-!Antoa~(!Ant^+-aap_cdnam~%5f~(!/~.!A~-!B~0!Class~'6k~%!/~+!?fq~*!a~&!/~.!A~-!B~/!C^&+L=~&!B~&!/~+!A~%ek~&!?~,ef ~&h0~(!=^,)4Dp^&.qG~'!>r^-)45putlong~&!?~&",
    "!/~,!?~&h[~&!?~%!/~-8i~-:8~-!4~-!K^&5cW~);+~/!6~.!O~-:Mn~2:Nn~,:On~1:Pqueriesmatch~'!I~,!6~-!Prandomid~(!u~(!3~)!Isym~),d~(!/~0!As~+!As~-!As~'+l~(!/^4.FO~%']n^0",
    "61U~40Eow~F!Kmail~E!Ld~B!u~(&2~/6I~(W!~42x~Q:C~('b~:%2~(3(~X%)p~i%)~%'6~(2l^C.D4h^7.AX~+!p^'.<]har~''p^K.<]~(2n^3*?nii~1!m__binary~O'i~(3a~7&k~(%!,~.%M~G'sdn_sk",
    "ip^,.3<~1&y^9.8L^/.8I~'2;^*.Ry,~PA0~+BB^(-WX~3B>~'31^*.VJ~e%632~,%6~-(P~'70~%A)^,3qB~A)3~&6I~*'2~P!c^(/a>~O![~%72~K!]~/'a~*:L^U.F.~5Is~R%N~X%M~a%G~'<3~9.9^)8(6~",
    "7!D^)3xJ~'Fq~3DB~R%d~|'/~4*d~&>p^/.QP^&/o8ion~?!s~(0|~,Cw~78]~A!hmp^B.Hd~4Fo*^/019~'!9~057dn_expa~;Gx~=L-^?.Q*^;.b:~,>i~/OJ~EQ[entropy~,2+~)=!~+BU~9KF~;,=~<!?~K",
    "Pb~,Br^U.KR~[!A~B%w~+'R~&S|~)a.^1.eE~*Kt~(&?~)!P~WWb~-H%~3!|^A.]w^-4(!~TX2~*&z~'*L~9%L~1Uc~IRwn~(Rx~K%*~K%+~-U4~:'c~1%>~'*_~:SR~4%<~)Y.~+%8~FY9~<Y:~B!I~NVDn~&VE",
    "~1'1~<%K~?''~*_p~&O3~6-P^Z2r%^1%,[^+&F&~)!9^30q|~1!?^F%AT^18OL^*%A'NS\t^,+>)MAXDFLSR^-',i~%!9~%u)^,)6%MA^'+Z|S^&-:=^*)sl~,o9^'%++^)38%~)!1y^,%AU~%:B^)3AY~%!H^'.",
    "M.^27vx_in`\t^-%-r~%&C]^1%BQ id;`^'%M!*dnsrch[~)&F+1^)%Mqdef~%AP[256]~1%ipf^)-08~'!:ndots^-.Pa nsort~.!6ipv6_unavail^-.PT ^&.Pl:23~*&X^+%DC^''FK\t^'%PP^*%MX^'7z",
    "2$ sort~)&x~*(W];`^(/Jd^)%&i~&%:_qhook;~8!Br~'!B~(;(^'76t~'!5_vcs^&-2?~,;R ^)8Bc^0-3Upad[52^2-3O^)/]d~*)Y~.!9map~*)J^&%Z.\t\tnssocks~,!<~1!q6~1!:ini~&%/~2*j6\t*",
    "~&*j~*!|~-sS^,-5F^')48^'+kT~('a^*&yU^&8<G~%1.~-wq((^&-*4)^)0Lj~,%%~%&U^16[72^*,pZ\t\t$ _ex^&%J/_u^&%4L^/%U%~-yU~)!.^T1%=va^&)D<^8%Zy^K10l^,12D^<%>!^Q10q~,%'^S2:",
    "T~.!ytime^)+zI~(2USOL~'%d^+&uFSO^'%J[CONN^,2V,SO^+)6g^,1po^*1fq^+4!HSO^&+&M^+%UrSO_KEEPALIVE^+3|fSO^'4!B^,3zfSO_OOB^'1GQ1~-%URCVBUF^+4!o~&!7LOWAT^,3ycSO_REUSEAD",
    "DR^+)pcSO_SNDBUF^+3'*~&!7~'!i~-%mTYPE ^&-IT (_^&&O*^)+zc^&4q_^,+zw32^(1Lr&& (^+1&zSYSCALL~*!Q||~4!9~%!j))^-19xRCVTIMEO 66~-!;SND~'!;7~-!;^)&Q& 63~6!<NS^&6Tb~3!>",
    "ING 65^+0F, ~0&t^+0Be~,%p20~.!<~)%q21~.!<~*%r29~7!=NS 35~7!?ING 37^+0Te~2%]_OLD~9%c~&!A1~7!aNEW~&(:~4!a~%!A7`~7%l~&%(~:&O~%!D~<&S~&!E7~8%.~%%N3~:%.~%!D4~;%.~%!E",
    "5`^,0XF^36Ow~4)]~/'J~/!K~))m~/'T~/!K~*)|~0&S~8!MNS~3&c~8!QING~4&q^40X1~8&WOLD~E&W~2!K~7&W~;!M~2&W~;!Q~4&W~'!S^50Z;"]

end CInspect.Includes
